/-
Progress.

Of the visible questions that count, those are answered whose answer is neither
missing nor null nor the empty text.  The percentage is the quotient as a double plus
one half, rounded down, so that a half goes up.
-/
import Questionnaire.Presentation.Basic
import Questionnaire.Json.Equal
import Questionnaire.Misfit

namespace Questionnaire

open Decimal (Double)

/-- Whether an answer counts as given. -/
def Json.isAnswer : Json → Bool
  | .null => false
  | .str s => s ≠ ""
  | _ => true

/-- Whether the answers hold one that counts under an id. -/
def Answers.isAnswered (answers : Answers) (id : String) : Bool :=
  ((Entries.get? answers id).getD .null).isAnswer

/-- Plain answers from answers that may come with a version. -/
def Answers.flatten (records : Entries Json) : Answers :=
  records.mapValues fun record =>
    match record with
    | .obj _ => record.getD "value"
    | v => v

/-- How many of the questions are answered. -/
structure Progress where
  answered : Int
  total : Int
  deriving DecidableEq, Repr

namespace Progress

/-- The double nearest to a quotient of whole numbers. -/
def quotient (a b : Int) : Double := .ofSigned (b < 0) (if b < 0 then -a else a) b.natAbs

/-- The whole number nearest to a double, a half upwards. -/
def rounded : Double → Except Misfit Int
  | .finite x =>
    let (num, den) := Double.ratio x
    match Double.ofSigned false (2 * num + den) (2 * den) with
    | .finite y => .ok (Double.floor y)
    | _ => .error .range
  | .infinite _ => .error .range
  | .nan => .error .content

/-- The percentage that is answered, where it can be held. -/
def percent? (p : Progress) : Except Misfit Int :=
  if p.total = 0 then .ok 0 else rounded (quotient (100 * p.answered) p.total)

/-- The percentage that is answered. -/
def percent (p : Progress) : Int :=
  match p.percent? with
  | .ok n => n
  | .error _ => 0

def toJson (p : Progress) : Json :=
  .obj [("answered", .int p.answered), ("total", .int p.total), ("percent", .int p.percent)]

/-! ### Of any two numbers -/

/-- A number as a double; one that is too great for that does not fit. -/
def toDouble : Int ⊕ Double → Except Misfit Double
  | .inl n =>
    match Double.ofInt n with
    | .infinite _ => .error .range
    | x => .ok x
  | .inr x => .ok x

/-- A hundred times a number. -/
def hundredfold : Int ⊕ Double → Int ⊕ Double
  | .inl n => .inl (100 * n)
  | .inr (.finite x) =>
    let (num, den) := Double.ratio x
    .inr (.ofSigned false (100 * num) den)
  | .inr x => .inr x

/-- The quotient of two doubles, of which the second is not zero. -/
def divided : Double → Double → Double
  | .finite x, .finite y =>
    let (a, b) := Double.ratio x
    let (c, d) := Double.ratio y
    .ofSigned false (if c < 0 then -(a * d) else a * d) (b * c.natAbs)
  | .infinite s, .finite y => .infinite (s != y.negative)
  | .finite _, .infinite _ => .zero false
  | _, _ => .nan

/-- The percentage that one number is of another. -/
def percentOf (answered total : Json) : Except Misfit Int :=
  match answered.number?, total.number? with
  | some (.inl a), some (.inl t) => percent? ⟨a, t⟩
  | a, some t =>
    if total.truthy then do
      let some a := a | .error .kind
      rounded (divided (← toDouble (hundredfold a)) (← toDouble t))
    else .ok 0
  | _, none => .error .kind

end Progress

/-- The progress of a presentation under some answers. -/
def Presentation.progress (p : Presentation) (answers : Answers) : Progress :=
  let ids := p.visibleIds
  ⟨ids.countP answers.isAnswered, ids.length⟩

end Questionnaire
