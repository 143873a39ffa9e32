/-
An import does nothing but what the store is asked for.

An import is a session of its own that loads the questionnaire once, answers one question after
the other and perhaps submits.  Whatever the session makes of the outcomes, the store is only
reached through its three operations, so that a property which each of them keeps is kept by the
whole import: `keeps_importAnswers`.
-/
import Questionnaire.Proofs.Fill.Session
import Questionnaire.Fill.Import

namespace Questionnaire

open Attempt (Keeps)

variable {σ τ : Type} {P : σ → Prop} {store : AnswerStore σ}

namespace Attempt

/-- A property of the outside that an attempt on the outside keeps. -/
theorem keeps_onSecond {α : Type} {a : Attempt σ α} (h : Keeps P a) :
    Keeps (fun both : τ × σ => P both.2) (onSecond a) := by
  rintro ⟨inside, outside⟩ hs
  rw [run_onSecond]
  exact h outside hs

theorem keeps_onFirst {α : Type} (a : Attempt τ α) :
    Keeps (fun both : τ × σ => P both.2) (onFirst a) := by
  rintro ⟨inside, outside⟩ hs
  rw [run_onFirst]
  exact hs

end Attempt

/-- A store all of whose operations keep a property. -/
structure AnswerStore.Guards (store : AnswerStore σ) (P : σ → Prop) : Prop where
  fetch : ∀ link, Keeps P (store.fetch link)
  save : ∀ link id value version, Keeps P (store.save link id value version)
  submit : ∀ link, Keeps P (store.submit link)

namespace FillSession

/-- What holds of the store outside a session. -/
abbrev Outside (P : σ → Prop) (both : FillSession × σ) : Prop := P both.2

theorem keeps_load (h : store.Guards P) (link : Json) : Keeps (Outside P) (load store link) :=
  (Attempt.keeps_onSecond (h.fetch link)).bind fun payload => Attempt.keeps_onFirst (seed payload)

theorem keeps_setAnswer (h : store.Guards P) (link id value : Json) :
    Keeps (Outside P) (setAnswer store link id value) := by
  rintro ⟨s, outside⟩ hs
  rcases asks_or_refuses σ s id with ⟨p, hasks⟩ | ⟨outcome, -, hrefuses⟩
  · have hafter := h.save link id value (s.version id) outside hs
    rw [run_setAnswer_of_asks hasks]
    cases hrun : (store.save link id value (s.version id)).run outside with
    | mk outcome after =>
        rw [hrun] at hafter
        cases outcome with
        | ok outcome => exact hafter
        | error failure => exact hafter
  · rw [hrefuses store link value outside]
    exact hs

theorem keeps_submit (h : store.Guards P) (link : Json) :
    Keeps (Outside P) (submit store link) := by
  rintro ⟨s, outside⟩ hs
  obtain ⟨outcome, after, outside', hrun, -, hsame | hsubmitted⟩ :=
    submit_keeps store link s outside
  · rw [hrun, hsame]
    exact hs
  · rw [hrun, hsubmitted]
    exact h.submit link outside hs

theorem keeps_setAll (h : store.Guards P) (link : Json) (answers : Entries Json) :
    Keeps (Outside P) (setAll store link answers) := by
  induction answers with
  | nil => exact Attempt.keeps_pure ({} : Tally)
  | cons answer rest ih =>
      obtain ⟨id, value⟩ := answer
      unfold setAll
      refine Attempt.keeps_get.bind fun ⟨s, _⟩ => ?_
      by_cases hanswered : s.hasAnswer id value = true
      · simp only [hanswered, if_true]
        exact ih.bind fun tally => Attempt.keeps_pure _
      · simp only [hanswered]
        refine (keeps_setAnswer h link (.str id) value).bind fun outcome => ih.bind fun tally => ?_
        split
        case isTrue => exact Attempt.keeps_pure _
        case isFalse => exact Attempt.keeps_pure _

theorem keeps_submitIf (h : store.Guards P) (wanted : Bool) (link : Json) :
    Keeps (Outside P) (submitIf wanted store link) := by
  unfold submitIf
  refine Attempt.keeps_get.bind fun ⟨s, _⟩ => ?_
  by_cases hwanted : (wanted && s.canSubmit) = true
  · simp only [hwanted, if_true]
    exact (keeps_submit h link).bind fun _ => Attempt.keeps_pure true
  · simp only [hwanted]
    exact Attempt.keeps_pure false

theorem keeps_replay (h : store.Guards P) (link : Json) (answers : Entries Json) (submit : Bool) :
    Keeps (Outside P) (replay store link answers submit) := by
  unfold replay
  refine (keeps_load h link).bind fun _ => (keeps_setAll h link answers).bind fun tally => ?_
  refine (keeps_submitIf h submit link).bind fun submitted => ?_
  refine Attempt.keeps_get.bind fun ⟨s, _⟩ => ?_
  exact (Attempt.keeps_fit _).bind fun conflicts =>
    (Attempt.keeps_lift _).bind fun progress => Attempt.keeps_pure _

end FillSession

/-- **An import keeps what each operation of the store keeps.** -/
theorem keeps_importAnswers (h : store.Guards P) (link answers : Json) (submit : Bool) :
    Keeps P (importAnswers store link answers submit) := by
  intro outside hs
  cases answers with
  | obj members => exact FillSession.keeps_replay h link members submit ({}, outside) hs
  | _ => exact hs

end Questionnaire
