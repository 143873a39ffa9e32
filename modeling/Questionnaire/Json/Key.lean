/-
Values as keys, and their order.

What is kept under a whole number is found under every value that equals it, so under a
truth value or a double as well.  Other values find nothing there, and lists and objects
are no keys at all.

Texts have an order, and so have numbers, but a text and a number have none between them.
-/
import Questionnaire.Json.Value
import Questionnaire.Misfit

namespace Questionnaire.Json

open Decimal (Double)

/-- The whole number that is found under a key, if it can be one. -/
def key? : Json → Except Misfit (Option Int)
  | .bool b => .ok (some (if b then 1 else 0))
  | .int n => .ok (some n)
  | .float (.finite x) =>
    let n := Double.truncate x
    .ok (if (Double.finite x).equalInt n then some n else none)
  | .arr _ | .obj _ => .error .kind
  | _ => .ok none

/-- Whether a number is at most another.  A value that is no number is so for all. -/
def numberAtMost : Json → Json → Bool
  | .float (.infinite negative), _ => negative
  | _, .float (.infinite negative) => !negative
  | a, b =>
    let (m, c) := quotient a
    let (n, d) := quotient b
    m * d ≤ n * c
where
  /-- The quotient that a number is. -/
  quotient : Json → Int × Nat
    | .bool b => (if b then 1 else 0, 1)
    | .int n => (n, 1)
    | .float (.finite x) => Double.ratio x
    | _ => (0, 0)

/-- Texts or numbers in ascending order. -/
def sorted (vs : List Json) : Except Misfit (List Json) :=
  let texts := vs.filterMap str?
  if texts.length = vs.length then .ok ((texts.mergeSort (· ≤ ·)).map str)
  else if vs.length ≤ 1 then .ok vs
  else if texts.isEmpty then .ok (vs.mergeSort numberAtMost)
  else .error .kind

example : key? (.bool true) = .ok (some 1) := rfl
example : key? (.str "1") = .ok none := rfl

end Questionnaire.Json
