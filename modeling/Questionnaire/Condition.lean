/-
Conditions on answers.

A condition is written as JSON.  A text `id/value` and an object `{id: value}` both
ask for an answer with that value; `and` and `or` take a list of conditions, `not`
takes one.  An operator whose operand is null, false, zero or the empty text is as
good as not written, the operators go in the order `and`, `or`, `not`, and of an
object without an operator only the first member counts.  Anything else is never met,
save for null, which always is.
-/
import Questionnaire.Json.Equal

namespace Questionnaire

/-- Answers under the ids of the questions. -/
abbrev Answers := Entries Json

/-- A condition on answers. -/
inductive Condition
  | always
  | never
  | equals (id : String) (value : Json)
  | all (conditions : List Condition)
  | any (conditions : List Condition)
  | not (condition : Condition)
  deriving Inhabited

namespace Condition

/-- The operators of an object, in the order in which they are looked for. -/
inductive Operator
  | and | or | not
  deriving DecidableEq, Repr

def Operator.name : Operator → String
  | .and => "and"
  | .or => "or"
  | .not => "not"

def isOperator (name : String) : Bool := name = "and" || name = "or" || name = "not"

/-- Whether a value stands as an operand: null, false, the empty text and zero do not. -/
def isOperand : Json → Bool
  | .null => false
  | .bool b => b
  | .str s => s ≠ ""
  | .int n => n ≠ 0
  | .float x => !x.isZero
  | _ => true

/-- The parts before and behind the first slash. -/
def splitSlash? (s : String) : Option (String × String) :=
  let cs := s.toList
  match cs.dropWhile (· ≠ '/') with
  | [] => none
  | _ :: behind => some (String.ofList (cs.takeWhile (· ≠ '/')), String.ofList behind)

/-- The condition of the first member that is no operator. -/
def ofFirstMember : List (String × Json) → Condition
  | [] => .always
  | (name, v) :: ms => if isOperator name then ofFirstMember ms else .equals name v

mutual

/-- The condition that a value writes. -/
def ofJson : Json → Condition
  | .null => .always
  | .str s =>
    match splitSlash? s with
    | some (id, value) => .equals id (.str value)
    | none => .never
  | .obj ms =>
    match ofOperator .and ms with
    | some c => c
    | none =>
      match ofOperator .or ms with
      | some c => c
      | none => (ofOperator .not ms).getD (ofFirstMember ms)
  | _ => .never

/-- The condition of an operator among the members, if it is there with an operand. -/
def ofOperator (op : Operator) : List (String × Json) → Option Condition
  | [] => none
  | (name, v) :: ms =>
    if name = op.name then if isOperand v then some (ofOperand op v) else none
    else ofOperator op ms

/-- The condition of an operator with its operand. -/
def ofOperand : Operator → Json → Condition
  | .not, v => .not (ofJson v)
  | .and, .arr vs => .all (ofAll vs)
  | .or, .arr vs => .any (ofAll vs)
  | _, _ => .never

def ofAll : List Json → List Condition
  | [] => []
  | v :: vs => ofJson v :: ofAll vs

end

/-- Equality of an answer with the value asked for.  A truth value equals only truth
values, and a text equals no number; inside lists and objects numbers and truth
values are compared by what they stand for. -/
def strictEqual : Json → Json → Bool
  | .bool a, .bool b => a == b
  | .bool _, _ => false
  | _, .bool _ => false
  | a, b => a.equal b

mutual

/-- Whether the answers meet a condition. -/
def holds (answers : Answers) : Condition → Bool
  | .always => true
  | .never => false
  | .equals id value =>
    match answers.get? id with
    | some answer => strictEqual answer value
    | none => false
  | .all cs => holdsAll answers cs
  | .any cs => holdsAny answers cs
  | .not c => !holds answers c

def holdsAll (answers : Answers) : List Condition → Bool
  | [] => true
  | c :: cs => holds answers c && holdsAll answers cs

def holdsAny (answers : Answers) : List Condition → Bool
  | [] => false
  | c :: cs => holds answers c || holdsAny answers cs

end

mutual

/-- The ids that a condition asks for, in the order in which it does. -/
def reads : Condition → List String
  | .always | .never => []
  | .equals id _ => [id]
  | .all cs | .any cs => readsAll cs
  | .not c => reads c

def readsAll : List Condition → List String
  | [] => []
  | c :: cs => reads c ++ readsAll cs

end

/-- Whether the answers meet the condition that a value writes. -/
def evaluate (cond : Json) (answers : Answers) : Bool := (ofJson cond).holds answers

/-- The ids that the condition a value writes asks for. -/
def referencedIds (cond : Json) : List String := (ofJson cond).reads

end Condition

end Questionnaire
