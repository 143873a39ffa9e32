/-
The shortest decimal that reads back.

For one digit, two digits and so on, the grid of decimals with that many digits has
two neighbours of a given double; the first grid with a neighbour that reads back
as the double gives the digits, the nearer one if both do and the even one of two at
the same distance.  Seventeen digits always suffice; the exact expansion stands
behind them so that the search is total and its result reads back by construction.
-/
import Questionnaire.Decimal.Double

namespace Questionnaire.Decimal

/-- A positive decimal: a point, the digits of `value` filled to `count` of them,
then a shift by `exponent` places. -/
structure Digits where
  value : Nat
  count : Nat
  exponent : Int
  deriving DecidableEq, Repr

/-- The double that reading the digits gives. -/
def Digits.read (negative : Bool) (d : Digits) : Double :=
  Double.ofDecimal negative d.value (d.exponent - d.count)

/-- Whether the digits read back as the double. -/
def Digits.readsBack (x : Finite) (d : Digits) : Bool := d.read x.negative = .finite x

/-- A power of ten as a quotient. -/
def tenTo (e : Int) : Nat × Nat :=
  if 0 ≤ e then (10 ^ e.toNat, 1) else (1, 10 ^ (-e).toNat)

/-- The least exponent whose power of ten exceeds `num / den`, found by trial from
an estimate that is never too great. -/
def decimalExponent (num den : Nat) : Int :=
  let estimate : Int := (leadingBit num den * 30103).fdiv 100000
  let above (e : Int) : Bool := let (p, q) := tenTo e; num * q < p * den
  if above estimate then estimate
  else if above (estimate + 1) then estimate + 1
  else estimate + 2

/-- The digits with the given value on a grid; the value may be one too long. -/
def Digits.onGrid (count : Nat) (exponent : Int) (value : Nat) : Digits :=
  if value = 10 ^ count then ⟨10 ^ (count - 1), count, exponent + 1⟩
  else ⟨value, count, exponent⟩

/-- The better neighbour of a double among the decimals with this many digits that
read back. -/
def neighbour? (x : Finite) (exponent : Int) (count : Nat) : Option Digits :=
  let (num, den) := Double.magnitude x
  let (unitNum, unitDen) := tenTo (exponent - count)
  let n := num * unitDen
  let d := den * unitNum
  let below := Digits.onGrid count exponent (n / d)
  let above := Digits.onGrid count exponent (n / d + 1)
  let r := n % d
  let nearerAbove := d < 2 * r || (d = 2 * r && n / d % 2 = 1)
  let (first, second) := if nearerAbove then (above, below) else (below, above)
  if first.readsBack x then some first
  else if second.readsBack x then some second
  else none

/-- All digits of a double. -/
def exact (x : Finite) : Digits :=
  let value :=
    if 0 ≤ x.exponent then x.mantissa * 2 ^ x.exponent.toNat
    else x.mantissa * 5 ^ (-x.exponent).toNat
  let count := Double.digitCount value
  ⟨value, count, count + min x.exponent 0⟩

/-- The shortest digits of a finite double other than zero. -/
def shortest (x : Finite) : Digits :=
  let (num, den) := Double.magnitude x
  let exponent := decimalExponent num den
  ((List.range 17).findSome? fun n => neighbour? x exponent (n + 1)).getD (exact x)

end Questionnaire.Decimal
