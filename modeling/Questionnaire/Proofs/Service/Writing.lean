/-
The ends of a write.

A write is a save as a whole, or what is left to do of a save that others overtook: its
insertion, or its second try.  That an overtaken save is nothing but that, on the tables that
the others left, is `run_overtaken`.

Each kind of write has the same ends, `write_ends`.  It stores one answer, or it finds a newer
one, or it turns back; and only the first changes an answer.
-/
import Questionnaire.Proofs.Service.Run

namespace Questionnaire

namespace Tables

/-- The question, with its instance, that a write under a link is about. -/
def asked (t : Tables) (link : Json) (q : String) : Option (Int × String) :=
  match t.under link with
  | .ok (some row) => some (row.id, q)
  | _ => none

theorem asked_of_under {t : Tables} {link : Json} {row : Instance}
    (h : t.under link = .ok (some row)) (q : String) : t.asked link q = some (row.id, q) := by
  rw [asked, h]

theorem asked_congr {t u : Tables} (h : t.instances = u.instances) (link : Json) (q : String) :
    t.asked link q = u.asked link q := by
  rw [asked, asked, under_congr h]

end Tables

namespace Service

namespace Write

/-- The question, with its instance, that a write is about; none if there is none. -/
def target (t : Tables) : Write → Option (Int × String)
  | .save link id _ _ =>
    match Database.column id with
    | .ok (some q) => t.asked link q
    | _ => none
  | .insert link i q value _ now =>
    match t.addAnswer (firstAnswer i q value now) with
    | .ok _ => some (i, q)
    | .error _ => t.asked link q
  | .retry link q _ _ _ => t.asked link q

/-- The text that is written. -/
def value : Write → Option String
  | .save _ _ value _ => value.text?
  | .insert _ _ _ value _ _ | .retry _ _ value _ _ => value

/-- The version that the writer knows. -/
def version? : Write → Option Int
  | .save _ _ _ version => (readVersion version).toOption
  | .insert _ _ _ _ version _ | .retry _ _ _ version _ => some version

end Write

variable {s after : Service} {link id value version : Json} {row : Instance} {q : String} {n : Int}

/-- **A save that others overtake is a late write to what they left.**  It looked before, and what
is left to do is its insertion, or its second try after the refusal was rolled back. -/
theorem run_overtaken (others : Interference) (hin : Admitted s.tables link id version row q n)
    (hnew : s.tables.answer? row.id q = none) :
    (saveAmong others link id value version).run s =
      let overtaken := s.database.interleave others.beforeInsert
      match (others.beforeInsert s.tables).addAnswer (firstAnswer row.id q value.text? s.now) with
      | .ok _ =>
        (Write.insert link row.id q value.text? n s.now).run.run { s with database := overtaken }
      | .error _ =>
        (Write.retry link q value.text? n s.now).run.run { s with
          database := overtaken.rollback.interleave others.beforeRetry } := by
  have hchecked : Database.checked n = .ok n := Database.checked_eq_ok.mpr ⟨hin.fits, rfl⟩
  rw [run_saveAmong_of_admitted others hin, run_place, Tables.writeAnswer?_of_missing hnew, hnew]
  simp only [Write.run, hchecked, Attempt.run_bind, Attempt.run_lift, Attempt.andThen_ok,
    run_insert]
  cases hadd : (others.beforeInsert s.tables).addAnswer
      (firstAnswer row.id q value.text? s.now) with
  | error failure => rfl
  | ok added =>
      have hagain : (Interference.none.beforeInsert
          (s.database.interleave others.beforeInsert).working).addAnswer
            (firstAnswer row.id q value.text? s.now) = .ok added := hadd
      simp only [tables, hagain]
      rfl

/-- What was stored, as it is told from tables with the same rows. -/
theorem Stored.of_rows {value : Option String} {a : StoredAnswer} {before : Service}
    (h : Stored before row q value n a after)
    (hinstances : s.tables.instances = before.tables.instances)
    (hanswers : s.tables.answers = before.tables.answers) : Stored s row q value n a after := by
  have hsame : s.tables.answer? = before.tables.answer? := by
    funext i q
    simp only [Tables.answer?, hanswers]
  exact {
    ready := h.ready
    instances := by rw [h.instances, hinstances]
    notNewer := by rw [hsame]; exact h.notNewer
    value_eq := h.value_eq
    first := by rw [hsame]; exact h.first
    next := by rw [hsame]; exact h.next
    found := h.found
    others := by rw [hsame]; exact h.others }

theorem TurnedBack.unwritten {result : Except Failure SaveOutcome × Service}
    (h : TurnedBack s result) : Unwritten s.database result.2 := by
  rcases h.state with hsame | hback
  · exact Or.inl (by rw [hsame])
  · exact Or.inr (by rw [hback])

/-- A write ends in one of three ways. -/
inductive Written (s : Service) (target : Option (Int × String)) (value : Option String)
    (version? : Option Int) : Except Failure SaveOutcome × Service → Prop
  /-- One answer is stored. -/
  | stored {row : Instance} {q : String} {n : Int} {a : StoredAnswer} {after : Service}
      (htarget : target = some (row.id, q)) (hrow : row ∈ s.tables.instances)
      (hfits : Database.fits n = true) (h : Stored s row q value n a after) :
      Written s target value version? (.ok (written a), after)
  /-- A newer answer is there. -/
  | newer {i : Int} {q : String} {n : Int} {b : StoredAnswer} {after : Service}
      (htarget : target = some (i, q)) (hknown : version? = some n)
      (hb : s.tables.answer? i q = some b) (hnewer : n < b.version.writes)
      (hafter : Unwritten s.database after) :
      Written s target value version? (.ok (newer b), after)
  | back {outcome : Except Failure SaveOutcome} {after : Service}
      (h : TurnedBack s (outcome, after)) : Written s target value version? (outcome, after)

namespace Written

variable {target : Option (Int × String)} {value : Option String} {version? : Option Int}
  {result : Except Failure SaveOutcome × Service}

/-- A write ends the same way after a rollback, which takes back no instance and no answer. -/
theorem of_rollback (hs : s.Aligned)
    (h : Written { s with database := s.database.rollback } target value version? result) :
    Written s target value version? result := by
  cases h with
  | stored htarget hrow hfits hstored =>
      have hinstances : s.tables.instances = s.database.committed.instances := hs.instances
      exact .stored htarget (hinstances ▸ hrow) hfits (hstored.of_rows hs.instances hs.answers)
  | newer htarget hknown hb hnewer hafter =>
      refine .newer htarget hknown ?_ hnewer (Or.inr (or_self_iff.mp hafter))
      rw [← hb]
      simp only [Tables.answer?, tables, Database.working_rollback, hs.answers]
  | back hback => exact .back ⟨hback.refused, Or.inr (or_self_iff.mp hback.state), hback.unmet⟩

end Written

theorem retry_ends (h : s.tables.WellVersioned) (link : Json) (q : String) (value : Option String)
    (hfits : Database.fits n = true) (now : Moment) :
    Written s (s.tables.asked link q) value (some n) ((retry link q value n now).run s) := by
  rw [run_retry]
  cases hunder : s.tables.under link with
  | error failure => exact .back (turnedBack_error _ (Or.inl rfl))
  | ok found =>
  cases found with
  | none => exact .back (turnedBack_rejected _ _ (Or.inr rfl))
  | some row =>
  have hasked := Tables.asked_of_under hunder q
  dsimp only
  cases hb : s.tables.answer? row.id q with
  | none =>
      rw [Tables.writeAnswer?_of_missing hb]
      exact .back (turnedBack_error _ (Or.inr rfl))
  | some b =>
      rcases write_or_newer h hb hfits value now with
        ⟨a, t, hwrite, hfound, hstored⟩ | ⟨hwrite, hnewer⟩
      · rw [hwrite]
        dsimp only
        rw [hfound]
        exact .stored hasked (Tables.mem_of_under hunder) hfits hstored
      · rw [hwrite]
        exact .newer hasked rfl hb hnewer (Or.inr rfl)

theorem insert_ends (h : Lasting Tables.WellVersioned s) (hs : s.Aligned) (link : Json) (i : Int)
    (q : String) (value : Option String) (hfits : Database.fits n = true) (now : Moment) :
    Written s ((Write.insert link i q value n now).target s.tables) value (some n)
      ((insert .none link i q value n now).run s) := by
  cases hadd : s.tables.addAnswer (firstAnswer i q value now) with
  | ok added =>
      have htarget : (Write.insert link i q value n now).target s.tables = some (i, q) := by
        simp only [Write.target, hadd]
      obtain ⟨row, hrow, hid⟩ : ∃ row ∈ s.tables.instances, row.id = i :=
        Tables.owner_of_addAnswer hadd
      have hnew : s.tables.answer? i q = none := (Tables.addAnswer_eq_ok hadd).1
      subst hid
      obtain ⟨a, hrun, hstored⟩ := stored_first link h.2 hrow hnew value n now
      rw [hrun]
      exact .stored htarget hrow hfits hstored
  | error failure =>
      let back : Service := { s with database := s.database.rollback }
      have hinstances : s.tables.instances = back.tables.instances := hs.instances
      have htarget : (Write.insert link i q value n now).target s.tables =
          back.tables.asked link q := by
        simp only [Write.target, hadd, Tables.asked_congr hinstances]
      have hrun : (insert .none link i q value n now).run s =
          (retry link q value n now).run back := by
        have hrefused : (Interference.none.beforeInsert s.tables).addAnswer
            (firstAnswer i q value now) = .error failure := hadd
        rw [run_insert, hrefused]
        rfl
      rw [htarget, hrun]
      exact .of_rollback hs (retry_ends (s := back) h.1 link q value hfits now)

theorem write_ends (h : Lasting Tables.WellVersioned s) (hs : s.Aligned) (w : Write) :
    Written s (w.target s.tables) w.value w.version? (w.run.run s) := by
  cases w with
  | save link id value version =>
      rcases save_ends h.2 link id value version with
        ⟨row, q, n, a, hin, houtcome, hstored⟩ | ⟨row, q, n, b, hin, hb, hnewer, hrun⟩ | hback
      · have htarget : (Write.save link id value version).target s.tables = some (row.id, q) := by
          simp only [Write.target, hin.asked, Tables.asked_of_under hin.found]
        rw [htarget]
        show Written s _ _ _ ((save link id value version).run s)
        rw [show (save link id value version).run s = (_, _) from Prod.ext houtcome rfl]
        exact .stored rfl (Tables.mem_of_under hin.found) hin.fits hstored
      · have htarget : (Write.save link id value version).target s.tables = some (row.id, q) := by
          simp only [Write.target, hin.asked, Tables.asked_of_under hin.found]
        have hknown : (Write.save link id value version).version? = some n := by
          simp only [Write.version?, hin.counted, Except.toOption]
        show Written s _ _ _ ((save link id value version).run s)
        rw [hrun]
        exact .newer htarget hknown hb hnewer (Or.inr rfl)
      · exact .back hback
  | insert link i q value n now =>
      simp only [Write.run, Attempt.run_bind, Attempt.run_lift, Database.checked]
      by_cases hfits : Database.fits n = true
      · rw [if_pos hfits]
        exact insert_ends h hs link i q value hfits now
      · rw [if_neg hfits]
        exact .back (turnedBack_error _ (Or.inl rfl))
  | retry link q value n now =>
      simp only [Write.run, Attempt.run_bind, Attempt.run_lift, Database.checked]
      by_cases hfits : Database.fits n = true
      · rw [if_pos hfits]
        exact retry_ends h.2 link q value hfits now
      · rw [if_neg hfits]
        exact .back (turnedBack_error _ (Or.inl rfl))

end Service

end Questionnaire
