/-
Which versions a save can use.

A writer names a version by any value.  A value that counts for a whole number is used, one that
counts for none is refused, and a refusal leaves everything as it is.  Between the two there is a
gap, `Overflows`: an infinite number is no value to refuse, nor is a whole number that a column
cannot hold, which is noticed only where it is to be compared with a version that is stored.  Then
the save breaks off, and who asked over the network is told of an internal error.  No version does
harm in any other way: `save_concludes`, `status_save_eq_iff`.
-/
import Questionnaire.Proofs.Remote.Exchange
import Questionnaire.Proofs.Service.Stored

namespace Questionnaire

namespace Service

variable {s : Service} {link q : String} {version : Json} {n : Int}

/-! ### Reading a version -/

/-- A value that counts for no whole number, and is not infinite either. -/
def Uncounted (version : Json) : Prop :=
  readVersion version = .error (.refused (.versionKind version))

theorem infinite_of_whole {v : Json} (h : v.whole = .error .range) :
    ∃ negative, v = .float (.infinite negative) := by
  unfold Json.whole at h
  split at h
  case h_4 negative => exact ⟨negative, rfl⟩
  case h_6 => split at h <;> cases h
  all_goals cases h

/-- What reading a version comes to. -/
theorem readVersion_ends (version : Json) :
    (∃ n, readVersion version = .ok n) ∨ Uncounted version ∨
      ∃ negative, version = .float (.infinite negative) := by
  unfold Uncounted readVersion
  split
  case h_1 | h_2 => exact Or.inl ⟨0, rfl⟩
  case h_3 b => exact Or.inr (Or.inl rfl)
  case h_4 =>
    cases hwhole : version.whole with
    | ok n => exact Or.inl ⟨n, rfl⟩
    | error m =>
        cases m with
        | range => exact Or.inr (Or.inr (infinite_of_whole hwhole))
        | kind | part | content | member | position | letters | calendar =>
            exact Or.inr (Or.inl rfl)

/-- A version that is too great for a save to an instance: it is infinite, or it counts for a whole
number that a column cannot hold, and the instance is there and open. -/
inductive Overflows (s : Service) (link : String) : Json → Prop
  | endless (negative : Bool) : Overflows s link (.float (.infinite negative))
  | beyond {version : Json} {n : Int} {row : Instance} (hread : readVersion version = .ok n)
      (hfits : Database.fits n = false) (hfound : s.tables.instanceAt? link = some row)
      (hopened : row.isLocked = false) : Overflows s link version

theorem overflows_iff_of_ok (hread : readVersion version = .ok n) :
    Overflows s link version ↔ Database.fits n = false ∧
      ∃ row, s.tables.instanceAt? link = some row ∧ row.isLocked = false := by
  constructor
  · intro h
    cases h with
    | endless negative => cases hread
    | beyond hread' hfits hfound hopened =>
        rw [hread] at hread'
        cases hread'
        exact ⟨hfits, _, hfound, hopened⟩
  · rintro ⟨hfits, row, hfound, hopened⟩
    exact .beyond hread hfits hfound hopened

theorem Uncounted.not_overflows (h : Uncounted version) : ¬Overflows s link version := by
  intro hover
  unfold Uncounted at h
  cases hover with
  | endless negative => cases h
  | beyond hread => rw [hread] at h; cases h

/-! ### How a save ends -/

/-- The ends of a save: an outcome, a refusal of the version, or, if and only if that overflows, a
failure that has no words.  A save that fails leaves everything as it was. -/
inductive Concluded (s : Service) (link : String) (version : Json) :
    Except Failure SaveOutcome × Service → Prop
  | told {outcome : SaveOutcome} {after : Service} (hheld : ¬Overflows s link version)
      (hdelivered : ∀ error, outcome ≠ .failed error) :
      Concluded s link version (.ok outcome, after)
  | refused (huncounted : Uncounted version) :
      Concluded s link version (.error (.refused (.versionKind version)), s)
  | overflown (hover : Overflows s link version) :
      Concluded s link version (.error (.misfit .range), s)

/-- A write to an instance that is there gives an outcome, whatever the tables hold. -/
theorem exists_run_place {row : Instance} (hrow : row ∈ s.tables.instances) (link : Json)
    (value : Option String) (now : Moment) :
    ∃ outcome after, (place .none link row.id q value n now).run s = (.ok outcome, after) ∧
      ∀ error, outcome ≠ .failed error := by
  rw [run_place]
  cases hwrite : s.tables.writeAnswer? row.id q value n now with
  | some t =>
      obtain ⟨-, hthere⟩ := Tables.writeAnswer?_eq_some hwrite
      obtain ⟨a, ha⟩ := Option.isSome_iff_exists.mp hthere
      dsimp only
      rw [ha]
      exact ⟨_, _, rfl, nofun⟩
  | none =>
      cases ha : s.tables.answer? row.id q with
      | some a => exact ⟨_, _, rfl, nofun⟩
      | none =>
          have hadd : (Interference.none.beforeInsert s.tables).addAnswer
              (firstAnswer row.id q value now) = .ok _ :=
            Tables.addAnswer_of_new (t := s.tables) hrow rfl ha
          dsimp only
          rw [run_insert, hadd]
          exact ⟨_, _, rfl, nofun⟩

/-- What a save under a text does, as far as its version decides. -/
theorem run_save_str (hq : q ≠ "") (link : String) (value version : Json) (s : Service) :
    (save (.str link) (.str q) value version).run s =
      match readVersion version, s.tables.instanceAt? link with
      | .error failure, _ => (.error failure, s)
      | .ok _, none => (.ok noQuestionnaire, { s with database := s.database.rollback })
      | .ok n, some row =>
        if row.isLocked then
          (.ok (.rejected .locked (.str "Questionnaire is locked")),
            { s with database := s.database.rollback })
        else if Database.fits n then
          (place .none (.str link) row.id q value.text? n s.now).run s
        else (.error (.misfit .range), s) := by
  have hnamed : (Json.str q).truthy = true := decide_eq_true hq
  simp only [save, saveAmong, hnamed, Bool.not_true, Bool.false_eq_true, if_false,
    Attempt.run_bind, Attempt.run_lift]
  cases readVersion version with
  | error failure => rfl
  | ok n =>
  simp only [Attempt.andThen_ok, Attempt.run_bind, run_instanceUnder, Tables.under_str]
  cases s.tables.instanceAt? link with
  | none => rfl
  | some row =>
  cases hopened : row.isLocked with
  | true =>
      simp only [hopened, if_true]
      rfl
  | false =>
  simp only [Attempt.andThen_ok, hopened, Bool.false_eq_true, if_false, Attempt.run_bind, run_time,
    Attempt.run_lift, Database.column, Database.checked]
  cases Database.fits n with
  | true => rfl
  | false => rfl

/-- In every state of the service, a save ends by the version that comes with it. -/
theorem save_concludes (s : Service) (link : String) (hq : q ≠ "") (value version : Json) :
    Concluded s link version ((save (.str link) (.str q) value version).run s) := by
  rw [run_save_str hq]
  rcases readVersion_ends version with ⟨n, hread⟩ | huncounted | ⟨negative, rfl⟩
  · have hiff : Overflows s link version ↔ _ := overflows_iff_of_ok hread
    rw [hread]
    cases hfound : s.tables.instanceAt? link with
    | none => exact .told (by simp [hiff, hfound]) nofun
    | some row =>
    cases hopened : row.isLocked with
    | true =>
        simp only [hopened]
        exact .told (by simp [hiff, hfound, hopened]) nofun
    | false =>
    cases hfits : Database.fits n with
    | false =>
        simp only [hopened, hfits]
        exact .overflown (hiff.mpr ⟨hfits, row, hfound, hopened⟩)
    | true =>
        have hrow : row ∈ s.tables.instances := List.mem_of_find?_eq_some hfound
        obtain ⟨outcome, after, hrun, hdelivered⟩ :=
          exists_run_place (q := q) (n := n) hrow (.str link) value.text? s.now
        simp only [hopened, hfits, hrun]
        exact .told (by simp [hiff, hfits]) hdelivered
  · have hread : readVersion version = .error (.refused (.versionKind version)) := huncounted
    rw [hread]
    exact .refused huncounted
  · exact .overflown (.endless negative)

end Service

namespace Api

open Service (Concluded Overflows save_concludes)

/-! ### What is answered -/

variable {s : Service} {link q : String} {version : Json}

/-- An outcome that a save can have is answered with no internal error. -/
theorem status_saved_ne {outcome : SaveOutcome} (h : ∀ error, outcome ≠ .failed error) :
    (saved outcome).status ≠ 500 := by
  cases outcome with
  | accepted version updatedAt => exact (by decide : (200 : Nat) ≠ 500)
  | conflict c => exact (by decide : (409 : Nat) ≠ 500)
  | rejected reason message =>
      cases reason with
      | unknownLink => exact (by decide : (404 : Nat) ≠ 500)
      | locked | conflicted | other => exact (by decide : (403 : Nat) ≠ 500)
  | failed error => exact absurd rfl (h error)

theorem status_responseTo_iff {reached : Except Failure SaveOutcome × Service}
    (h : Concluded s link version reached) :
    (responseTo (reached.1.map saved)).status = 500 ↔ Overflows s link version := by
  cases h with
  | told hheld hdelivered => exact iff_of_false (status_saved_ne hdelivered) hheld
  | refused huncounted =>
      exact iff_of_false (by decide : (422 : Nat) ≠ 500) huncounted.not_overflows
  | overflown hover => exact iff_of_true rfl hover

theorem run_save {data : Entries Json} (hid : member data "question_id" = .str q) (hq : q ≠ "")
    (link : String) (s : Service) :
    ((save link data).run s).1 =
      ((Service.save (.str link) (.str q) (member data "answer_value")
        ((data.get? "version").getD (.int 0))).run s).1.map saved := by
  rw [save, hid]
  simp only [if_neg hq]
  exact congrArg Prod.fst (Attempt.run_return _ saved s)

end Api

end Questionnaire
