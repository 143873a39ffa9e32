/-
Calls on a session.

A session is loaded, answered and submitted in any order, on any store: the store answers each
request with whatever it likes, and may fail.  `does` says everything that one call can do to the
session and to the store, one case for each way in which the store is asked and answers.  What
holds along every run is read off it.
-/
import Questionnaire.Proofs.Fill.Session

namespace Questionnaire.FillSession

variable {σ : Type} {store : AnswerStore σ} {link id : Json} {s : FillSession}

/-- What is called on a session; to reload is to load. -/
inductive Call
  | load
  | answer (id value : Json)
  | submit

/-- The session and the store after a call, which may have failed. -/
def Call.after (store : AnswerStore σ) (link : Json) (both : FillSession × σ) :
    Call → FillSession × σ
  | .load => ((FillSession.load store link).run both).2
  | .answer id value => ((setAnswer store link id value).run both).2
  | .submit => ((FillSession.submit store link).run both).2

/-- The session and the store after calls. -/
def run (store : AnswerStore σ) (link : Json) (calls : List Call) (both : FillSession × σ) :
    FillSession × σ := calls.foldl (Call.after store link) both

theorem run_append (store : AnswerStore σ) (link : Json) (earlier later : List Call)
    (both : FillSession × σ) :
    run store link (earlier ++ later) both = run store link later (run store link earlier both) :=
  List.foldl_append

/-! ### Each call -/

theorem after_load (store : AnswerStore σ) (link : Json) (s : FillSession) (outside : σ) :
    Call.load.after store link (s, outside) =
      match (store.fetch link).run outside with
      | (.ok payload, now) => (((seed payload).run s).2, now)
      | (.error _, now) => (s, now) := by
  rw [Call.after, run_load]
  cases (store.fetch link).run outside with
  | mk answer now => cases answer <;> rfl

theorem after_answer_of_asks {p : Presentation} (h : s.Asks id p) (store : AnswerStore σ)
    (link value : Json) (outside : σ) :
    (Call.answer id value).after store link (s, outside) =
      match (store.save link id value (s.version id)).run outside with
      | (.ok outcome, now) => ((s.applyAnswer p id value).record id outcome, now)
      | (.error _, now) => (s.applyAnswer p id value, now) := by
  rw [Call.after, run_setAnswer_of_asks h]
  cases (store.save link id value (s.version id)).run outside with
  | mk answer now => cases answer <;> rfl

theorem after_answer_of_not_asks (h : ¬∃ p, s.Asks id p) (store : AnswerStore σ)
    (link value : Json) (outside : σ) :
    (Call.answer id value).after store link (s, outside) = (s, outside) := by
  obtain ⟨outcome, -, hrefuses⟩ := (asks_or_refuses σ s id).resolve_left h
  rw [Call.after, hrefuses]

theorem after_submit_of_open (h : s.conflicts.isEmpty = true) (store : AnswerStore σ)
    (link : Json) (outside : σ) :
    Call.submit.after store link (s, outside) =
      match (store.submit link).run outside with
      | (.ok _, now) => ({ s with isLocked := true }, now)
      | (.error _, now) => (s, now) := by
  simp only [Call.after, submit, Attempt.run_bind, Attempt.run_get, Attempt.andThen_ok, h, if_true,
    Attempt.run_onSecond]
  cases (store.submit link).run outside with
  | mk answer now => cases answer <;> rfl

theorem after_submit_of_blocked (h : s.conflicts.isEmpty = false) (store : AnswerStore σ)
    (link : Json) (outside : σ) : Call.submit.after store link (s, outside) = (s, outside) := by
  simp only [Call.after, submit, Attempt.run_bind, Attempt.run_get, Attempt.andThen_ok, h,
    Bool.false_eq_true, if_false, Attempt.run_fit]
  cases s.conflictedIds <;> rfl

/-! ### Any call -/

/-- What a call does, by what the store answers. -/
inductive Does (store : AnswerStore σ) (link : Json) (s : FillSession) (outside : σ) :
    Call → FillSession × σ → Prop
  | unfetched {failure : Failure} {now : σ}
      (h : (store.fetch link).run outside = (.error failure, now)) :
      Does store link s outside .load (s, now)
  | fetched {payload : Json} {now : σ} (h : (store.fetch link).run outside = (.ok payload, now)) :
      Does store link s outside .load (((seed payload).run s).2, now)
  /-- The session does not let the answer through. -/
  | refused {id : Json} (h : ¬∃ p, s.Asks id p) (value : Json) :
      Does store link s outside (.answer id value) (s, outside)
  | unsaved {id value : Json} {p : Presentation} {failure : Failure} {now : σ} (hasks : s.Asks id p)
      (h : (store.save link id value (s.version id)).run outside = (.error failure, now)) :
      Does store link s outside (.answer id value) (s.applyAnswer p id value, now)
  | saved {id value : Json} {p : Presentation} {outcome : SaveOutcome} {now : σ}
      (hasks : s.Asks id p)
      (h : (store.save link id value (s.version id)).run outside = (.ok outcome, now)) :
      Does store link s outside (.answer id value)
        ((s.applyAnswer p id value).record id outcome, now)
  /-- A field is blocked. -/
  | withheld (h : s.conflicts.isEmpty = false) : Does store link s outside .submit (s, outside)
  | unsubmitted {failure : Failure} {now : σ} (hopen : s.conflicts.isEmpty = true)
      (h : (store.submit link).run outside = (.error failure, now)) :
      Does store link s outside .submit (s, now)
  | submitted {now : σ} (hopen : s.conflicts.isEmpty = true)
      (h : (store.submit link).run outside = (.ok (), now)) :
      Does store link s outside .submit ({ s with isLocked := true }, now)

theorem does (store : AnswerStore σ) (link : Json) (s : FillSession) (outside : σ) (call : Call) :
    Does store link s outside call (call.after store link (s, outside)) := by
  cases call with
  | load =>
      rw [after_load]
      cases hfetch : (store.fetch link).run outside with
      | mk answer now =>
          cases answer with
          | error failure => exact .unfetched hfetch
          | ok payload => exact .fetched hfetch
  | answer id value =>
      by_cases hasks : ∃ p, s.Asks id p
      · obtain ⟨p, hasks⟩ := hasks
        rw [after_answer_of_asks hasks]
        cases hsave : (store.save link id value (s.version id)).run outside with
        | mk answer now =>
            cases answer with
            | error failure => exact .unsaved hasks hsave
            | ok outcome => exact .saved hasks hsave
      · rw [after_answer_of_not_asks hasks]
        exact .refused hasks value
  | submit =>
      cases hopen : s.conflicts.isEmpty with
      | true =>
          rw [after_submit_of_open hopen]
          cases hsubmit : (store.submit link).run outside with
          | mk answer now =>
              cases answer with
              | error failure => exact .unsubmitted hopen hsubmit
              | ok done => exact .submitted hopen hsubmit
      | false =>
          rw [after_submit_of_blocked hopen]
          exact .withheld hopen

end Questionnaire.FillSession
