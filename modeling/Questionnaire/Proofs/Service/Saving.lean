/-
What becomes of a save.

A save is let in if its arguments can be used and the instance under its link is open
when it begins: `Admitted`.  What is not let in changes nothing.  What is let in has one
of three ends, and `run_place`, `run_insert` and `run_retry` say which: the answer is
there and is written or found newer, or it is inserted, or another writer was faster
and the write is tried again.
-/
import Questionnaire.Proofs.Database.Answers
import Questionnaire.Proofs.Service.Steps

namespace Questionnaire

namespace Service

variable {s : Service} {link id value version : Json} {i n : Int} {q : String}

/-- Whether a save was accepted. -/
def Accepted (outcome : Except Failure SaveOutcome) : Prop :=
  ∃ version updatedAt, outcome = .ok (.accepted version updatedAt)

theorem accepted_iff {outcome : Except Failure SaveOutcome} :
    Accepted outcome ↔ outcome.toOption.any SaveOutcome.isAccepted = true := by
  constructor
  · rintro ⟨version, updatedAt, rfl⟩
    rfl
  · intro h
    match outcome with
    | .ok (.accepted version updatedAt) => exact ⟨version, updatedAt, rfl⟩

instance (outcome : Except Failure SaveOutcome) : Decidable (Accepted outcome) :=
  decidable_of_iff _ accepted_iff.symm

theorem not_accepted_error (failure : Failure) : ¬Accepted (.error failure) := by
  rintro ⟨_, _, h⟩
  cases h

/-- A save that is let in. -/
structure Admitted (t : Tables) (link id version : Json) (row : Instance) (q : String)
    (n : Int) : Prop where
  named : id.truthy = true
  counted : readVersion version = .ok n
  found : t.under link = .ok (some row)
  opened : row.isLocked = false
  asked : Database.column id = .ok (some q)
  fits : Database.fits n = true

/-! ### The steps of a save -/

/-- The outcome of a save that reports on an answer, which has to be there. -/
def report (outcome : StoredAnswer → SaveOutcome) : Option StoredAnswer → Except Failure SaveOutcome
  | some a => .ok (outcome a)
  | none => .error (.misfit .part)

/-- The outcome that reports an answer as accepted. -/
def written (a : StoredAnswer) : SaveOutcome := .accepted a.version.toJson (.str a.updatedAt.iso)

/-- The outcome that reports an answer as newer. -/
def newer (a : StoredAnswer) : SaveOutcome := .conflict ⟨a.version.toJson, .str a.updatedAt.iso⟩

theorem not_accepted_newer (a : Option StoredAnswer) : ¬Accepted (report newer a) := by
  rintro ⟨_, _, h⟩
  cases a <;> cases h

theorem accepted_written (a : StoredAnswer) : Accepted (.ok (written a)) := ⟨_, _, rfl⟩

theorem run_accept (s : Service) :
    (accept i q).run s =
      (report written (s.tables.answer? i q), { s with database := s.database.commit }) := by
  simp only [accept, Attempt.run_bind, run_read, run_commit, Attempt.andThen_ok]
  cases s.tables.answer? i q <;> rfl

theorem run_conflict (s : Service) :
    (conflict i q).run s =
      (report newer (s.tables.answer? i q), { s with database := s.database.rollback }) := by
  simp only [conflict, Attempt.run_bind, run_read, run_rollback, Attempt.andThen_ok]
  cases s.tables.answer? i q <;> rfl

/-- A write that does not go through leaves the session as it was. -/
theorem run_write (value : Option String) (now : Moment) (s : Service) :
    (write i q value n now).run s =
      match s.tables.writeAnswer? i q value n now with
      | some t => (.ok true, { s with database := s.database.change fun _ => t })
      | none => (.ok false, s) := by
  simp only [write, Attempt.run_bind, Attempt.run_get, Attempt.andThen_ok]
  cases s.tables.writeAnswer? i q value n now <;> rfl

/-! ### The ends of a save -/

/-- The second try writes what is there now, or finds it newer. -/
theorem run_retry (value : Option String) (now : Moment) (s : Service) :
    (retry link q value n now).run s =
      match s.tables.under link with
      | .error failure => (.error failure, s)
      | .ok none => (.ok noQuestionnaire, { s with database := s.database.rollback })
      | .ok (some row) =>
        match s.tables.writeAnswer? row.id q value n now with
        | some t => (report written (t.answer? row.id q), s.withTables t)
        | none =>
          (report newer (s.tables.answer? row.id q),
            { s with database := s.database.rollback }) := by
  simp only [retry, Attempt.run_bind, run_instanceUnder]
  cases s.tables.under link with
  | error failure => rfl
  | ok found =>
      cases found with
      | none => rfl
      | some row =>
          simp only [Attempt.andThen_ok, Attempt.run_bind, run_write]
          cases s.tables.writeAnswer? row.id q value n now with
          | none => exact run_conflict s
          | some t => exact run_accept _

/-- The first answer to a question. -/
def firstAnswer (i : Int) (q : String) (value : Option String) (now : Moment) : StoredAnswer :=
  ⟨0, i, q, value, now, .whole 1⟩

/-- An insertion is committed at once; where it is refused the save is tried again. -/
theorem run_insert (others : Interference) (value : Option String) (now : Moment) (s : Service) :
    (insert others link i q value n now).run s =
      match (others.beforeInsert s.tables).addAnswer (firstAnswer i q value now) with
      | .ok (_, t) => (.ok (.accepted (.int 1) (.str now.iso)), s.withTables t)
      | .error _ =>
        (retry link q value n now).run { s with
          database := (s.database.interleave others.beforeInsert).rollback.interleave
            others.beforeRetry } := by
  simp only [insert, Attempt.run_bind, run_interleave, Attempt.andThen_ok, Attempt.run_get]
  show Attempt.run _ _ = _
  simp only [tables, Database.interleave, firstAnswer]
  cases (others.beforeInsert s.database.working).addAnswer ⟨0, i, q, value, now, .whole 1⟩ with
  | error failure => rfl
  | ok added => rfl

/-- An answer that is there is written or found newer; one that is not there is inserted. -/
theorem run_place (others : Interference) (value : Option String) (now : Moment) (s : Service) :
    (place others link i q value n now).run s =
      match s.tables.writeAnswer? i q value n now with
      | some t => (report written (t.answer? i q), s.withTables t)
      | none =>
        match s.tables.answer? i q with
        | some a => (.ok (newer a), { s with database := s.database.rollback })
        | none => (insert others link i q value n now).run s := by
  simp only [place, Attempt.run_bind, run_write]
  cases s.tables.writeAnswer? i q value n now with
  | some t => exact run_accept _
  | none =>
      simp only [Attempt.andThen_ok, Bool.false_eq_true, if_false, Attempt.run_bind, run_read]
      cases ha : s.tables.answer? i q with
      | none => rfl
      | some a =>
          show (conflict i q).run s = _
          rw [run_conflict, ha]
          rfl

/-! ### Being let in -/

theorem run_saveAmong_of_admitted (others : Interference) {row : Instance}
    (h : Admitted s.tables link id version row q n) :
    (saveAmong others link id value version).run s =
      (place others link row.id q value.text? n s.now).run s := by
  have hchecked : Database.checked n = .ok n := Database.checked_eq_ok.mpr ⟨h.fits, rfl⟩
  simp only [saveAmong, h.named, h.counted, Bool.not_true, Bool.false_eq_true, if_false,
    Attempt.run_bind, Attempt.run_lift, Attempt.andThen_ok, run_instanceUnder, h.found,
    h.opened, run_time, h.asked, hchecked]

theorem not_accepted_rejected (reason : Rejection) (message : Json) :
    ¬Accepted (.ok (.rejected reason message)) := by
  rintro ⟨_, _, h⟩
  cases h

/-- The end of a save that turned back before anything was written: it was neither accepted nor
did it meet a newer version, and at most what was pending is forgotten. -/
structure TurnedBack (s : Service) (result : Except Failure SaveOutcome × Service) : Prop where
  refused : ¬Accepted result.1
  state : result.2 = s ∨ result.2 = { s with database := s.database.rollback }
  unmet : ∀ c, result.1 ≠ .ok (.conflict c)

/-- A save that turns back. -/
def TurnsBack (a : Attempt Service SaveOutcome) (s : Service) : Prop := TurnedBack s (a.run s)

theorem turnedBack_error (failure : Failure) {after : Service}
    (h : after = s ∨ after = { s with database := s.database.rollback }) :
    TurnedBack s (.error failure, after) :=
  ⟨not_accepted_error failure, h, by simp⟩

theorem turnedBack_rejected (reason : Rejection) (message : Json) {after : Service}
    (h : after = s ∨ after = { s with database := s.database.rollback }) :
    TurnedBack s (.ok (.rejected reason message), after) :=
  ⟨not_accepted_rejected reason message, h, by simp⟩

/-- A save is let in or turns back. -/
theorem admitted_or_turnsBack (others : Interference) (link id value version : Json)
    (s : Service) :
    (∃ row q n, Admitted s.tables link id version row q n) ∨
      TurnsBack (saveAmong others link id value version) s := by
  unfold TurnsBack
  by_cases hnamed : id.truthy = true
  case neg =>
    refine Or.inr ?_
    simp only [saveAmong, hnamed]
    exact turnedBack_error _ (Or.inl rfl)
  simp only [saveAmong, hnamed, Bool.not_true, Bool.false_eq_true, if_false, Attempt.run_bind,
    Attempt.run_lift]
  cases hcounted : readVersion version with
  | error failure => exact Or.inr (turnedBack_error _ (Or.inl rfl))
  | ok n =>
  simp only [Attempt.andThen_ok, Attempt.run_bind, run_instanceUnder]
  cases hfound : s.tables.under link with
  | error failure => exact Or.inr (turnedBack_error _ (Or.inl rfl))
  | ok found =>
  cases found with
  | none => exact Or.inr (turnedBack_rejected _ _ (Or.inr rfl))
  | some row =>
  cases hopened : row.isLocked with
  | true =>
      simp only [Attempt.andThen_ok, hopened, if_true]
      exact Or.inr (turnedBack_rejected _ _ (Or.inr rfl))
  | false =>
  simp only [Attempt.andThen_ok, hopened, Bool.false_eq_true, if_false, Attempt.run_bind, run_time,
    Attempt.run_lift]
  cases hasked : Database.column id with
  | error failure => exact Or.inr (turnedBack_error _ (Or.inl rfl))
  | ok column =>
  simp only [Attempt.andThen_ok, Attempt.run_bind, Attempt.run_lift]
  cases hfits : Database.fits n with
  | false =>
      rw [Database.checked, hfits]
      exact Or.inr (turnedBack_error _ (Or.inl rfl))
  | true =>
  cases column with
  | none =>
      rw [Database.checked_eq_ok.mpr ⟨hfits, rfl⟩]
      exact Or.inr (turnedBack_error _ (Or.inr rfl))
  | some q => exact Or.inl ⟨row, q, n, hnamed, hcounted, hfound, hopened, hasked, hfits⟩

end Service

end Questionnaire
