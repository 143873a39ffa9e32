/-
Where the answers of respondents are kept.

A session needs three things of the place that keeps its answers: the questionnaire
under a link with what was answered so far, the versioned write of one answer, and the
submission of the whole.  The place may be this program's own database or a server far
away; `σ` is whatever state it has.  Links, questions and versions are handed over as they
are given.
-/
import Questionnaire.Attempt
import Questionnaire.Fill.Outcome

namespace Questionnaire

/-- A place that keeps answers. -/
structure AnswerStore (σ : Type) where
  /-- The questionnaire under a link: content, answers and whether it is locked. -/
  fetch : (link : Json) → Attempt σ Json
  /-- Writes one answer, given the version that the writer saw last. -/
  save : (link id value version : Json) → Attempt σ SaveOutcome
  /-- Submits the questionnaire under a link, which locks it. -/
  submit : (link : Json) → Attempt σ Unit

namespace Attempt

variable {σ τ α : Type}

/-- An attempt on the first part of a state. -/
def onFirst (a : Attempt σ α) : Attempt (σ × τ) α := fun s =>
  let (r, first) := a.run s.1
  (r, (first, s.2))

/-- An attempt on the second part of a state. -/
def onSecond (a : Attempt τ α) : Attempt (σ × τ) α := fun s =>
  let (r, second) := a.run s.2
  (r, (s.1, second))

theorem run_onFirst (a : Attempt σ α) (s : σ × τ) :
    (onFirst a).run s = ((a.run s.1).1, ((a.run s.1).2, s.2)) := rfl

theorem run_onSecond (a : Attempt τ α) (s : σ × τ) :
    (onSecond a).run s = ((a.run s.2).1, (s.1, (a.run s.2).2)) := rfl

end Attempt

end Questionnaire
