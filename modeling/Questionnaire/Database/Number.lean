/-
What a column of numbers holds.

A column of numbers holds whole numbers of sixty-four bits wherever it can: doubles without a
fraction, truth values and texts that write such a number turn into them on the way in.
Numbers with a fraction, or beyond that range, are held as doubles, and texts that write no
number as they are; a NaN turns into nothing.  A whole number as such has to fit, and lists
and records do not fit at all.
-/
import Questionnaire.Database.Column
import Questionnaire.Json.Reader

namespace Questionnaire

open Decimal (Double)

/-- What a column of numbers holds. -/
inductive Number
  | whole (n : Int)
  | real (x : Double)
  | text (s : String)
  deriving DecidableEq

namespace Number

/-- The number that a double is held as. -/
def ofDouble (x : Double) : Number :=
  match x with
  | .finite y =>
    let n := Double.truncate y
    if x.equalInt n && -2 ^ 63 < n && n < 2 ^ 63 then .whole n else .real x
  | x => .real x

/-- The number that a whole number is held as if it may lie beyond the range. -/
def ofInt (n : Int) : Number := if Database.fits n then .whole n else .real (Double.ofInt n)

/-- The blanks that may stand around a number. -/
def isPadding (c : Char) : Bool := c = ' ' || (0x09 ≤ c.toNat && c.toNat ≤ 0x0D)

/-- The number that digits write, after their sign. -/
def ofDigits? (negative : Bool) (cs : List Char) : Option Number :=
  let front := cs.takeWhile Json.isDigit
  let (behind, rest) := match cs.dropWhile Json.isDigit with
    | '.' :: rest => (some (rest.takeWhile Json.isDigit), rest.dropWhile Json.isDigit)
    | rest => (none, rest)
  let digits := front ++ behind.getD []
  let (exponent, rest) := Json.scale rest
  if digits.isEmpty || !rest.isEmpty then none
  else if behind.isNone && exponent.isNone then
    let n : Int := Json.digitsValue digits
    some (ofInt (if negative then -n else n))
  else
    some (ofDouble (.ofDecimal negative (Json.digitsValue digits)
      (exponent.getD 0 - (behind.getD []).length)))

/-- The number that a text writes, if it writes one. -/
def ofText? (s : String) : Option Number :=
  match Text.trimBy isPadding s.toList with
  | '-' :: cs => ofDigits? true cs
  | '+' :: cs => ofDigits? false cs
  | cs => ofDigits? false cs

/-- The whole number, where one is held. -/
def whole? : Number → Option Int
  | .whole n => some n
  | _ => none

/-- The number after a number.  Texts are never counted on from, and count for zero here. -/
def next : Number → Number
  | .whole n => ofInt (n + 1)
  | .real (.finite x) =>
    let (num, den) := Double.ratio x
    ofDouble (.ofSigned false (num + den) den)
  | .real x => .real x
  | .text _ => .whole 1

/-- Whether a number is at most a whole one.  Texts are greater than all numbers. -/
def atMost (v : Number) (n : Int) : Bool :=
  match v with
  | .whole m => m ≤ n
  | .real x => !x.exceeds n
  | .text _ => false

/-- A number as a value to send. -/
def toJson : Number → Json
  | .whole n => .int n
  | .real x => .float x
  | .text s => .str s

example : ofText? " 01 " = some (.whole 1) ∧ ofText? "1e3" = some (.whole 1000) := by decide +kernel
example : ofText? "1." = some (.whole 1) ∧ ofText? "." = none ∧ ofText? "1e" = none := by
  decide +kernel
example : (Number.whole (2 ^ 63 - 1)).next = .real (.ofInt (2 ^ 63)) := by decide +kernel

end Number

/-- What a column of numbers holds for a value. -/
def Database.number : Json → Except Failure (Option Number)
  | .null | .float .nan => .ok none
  | .bool b => .ok (some (.whole (if b then 1 else 0)))
  | .int n => do return some (.whole (← checked n))
  | .float x => .ok (some (.ofDouble x))
  | .str s => .ok (some ((Number.ofText? s).getD (.text s)))
  | .arr _ | .obj _ => .error .unstorable

end Questionnaire
