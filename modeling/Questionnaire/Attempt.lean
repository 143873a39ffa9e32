/-
Steps that may fail halfway.

An attempt acts on a state and gives a value or a failure.  A failure does not take
back what was done before it: the state goes on from where the attempt stopped.
-/
import Questionnaire.Failure

namespace Questionnaire

/-- A step on a state that may fail and keeps what it did before. -/
abbrev Attempt (σ : Type) (α : Type) := ExceptT Failure (StateM σ) α

namespace Attempt

variable {σ α : Type}

/-- The outcome of an attempt and the state it leaves. -/
def run (a : Attempt σ α) (s : σ) : Except Failure α × σ := ExceptT.run a s

/-- The attempt that always fails. -/
def fail (f : Failure) : Attempt σ α := throw f

/-- The attempt that breaks a rule. -/
def refuse (rule : Refusal) : Attempt σ α := throw (.refused rule)

/-- A value that was worked out without touching the state. -/
def lift (r : Except Failure α) : Attempt σ α :=
  match r with
  | .ok a => pure a
  | .error f => throw f

/-- A value that was worked out from another value, if that fits. -/
def fit (r : Except Misfit α) : Attempt σ α :=
  match r with
  | .ok a => pure a
  | .error m => throw (.misfit m)

end Attempt

end Questionnaire
