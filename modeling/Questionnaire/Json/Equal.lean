/-
Equality of JSON values by what they stand for.

Numbers are compared by value across whole numbers, doubles and truth values, where
true stands for one and false for zero.  Objects are equal when they have the same
names with equal values, in any order.

A double that is no number equals nothing, not even itself.  As a part of a list or of
an object it is nevertheless the same as another such double, for parts are compared by
what they are before they are compared by what they stand for.
-/
import Questionnaire.Json.Value

namespace Questionnaire.Json

open Decimal (Double)

/-- The number that a value stands for. -/
def number? : Json → Option (Int ⊕ Double)
  | .bool b => some (.inl (if b then 1 else 0))
  | .int n => some (.inl n)
  | .float x => some (.inr x)
  | _ => none

/-- Equality of the numbers that two values stand for, if both stand for one. -/
def numericEqual? : Json → Json → Option Bool
  | a, b => do
    let x ← number? a
    let y ← number? b
    return match x, y with
      | .inl m, .inl n => m == n
      | .inl m, .inr y => y.equalInt m
      | .inr x, .inl n => x.equalInt n
      | .inr x, .inr y => x.equal y

/-- Whether a value is the double that is no number. -/
def isNaN : Json → Bool
  | .float .nan => true
  | _ => false

mutual

/-- Equality by what the values stand for. -/
def equal : Json → Json → Bool
  | .null, .null => true
  | .str s, .str t => s == t
  | .arr xs, .arr ys => allEqual xs ys
  | .obj ms, .obj ns => ms.length == ns.length && membersEqual ms ns
  | a, b => (numericEqual? a b).getD false

/-- Equality of lists, element by element. -/
def allEqual : List Json → List Json → Bool
  | [], [] => true
  | x :: xs, y :: ys => (isNaN x && isNaN y || equal x y) && allEqual xs ys
  | _, _ => false

/-- Every member is there on the other side with an equal value. -/
def membersEqual : List (String × Json) → List (String × Json) → Bool
  | [], _ => true
  | (name, v) :: ms, ns =>
    (match ns.lookup name with
      | some w => isNaN v && isNaN w || equal v w
      | none => false) && membersEqual ms ns

end

/-- Whether two values are the same part: they are equal, or neither is a number. -/
def samePart (v w : Json) : Bool := isNaN v && isNaN w || equal v w

/-- Equality of an optional value with a value; what is missing counts as null. -/
def sameAs (stored : Option Json) (v : Json) : Bool := equal (stored.getD .null) v

end Questionnaire.Json
