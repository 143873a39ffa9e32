/-
Numbers with a fixed number of digits.

A double is written with so many digits behind the point, or with so many digits and an
exponent, or in whichever of the two forms is the shorter one for its size.  The value is
rounded exactly, a half to the even neighbour.
-/
import Questionnaire.Decimal.Layout

namespace Questionnaire.Decimal

/-- Digits with a point before the last `places` of them; `pointed` keeps the point where
nothing follows it. -/
def withPoint (places : Nat) (pointed : Bool) (n : Nat) : List Char :=
  let ds := padded (places + 1) n
  let front := ds.take (ds.length - places)
  if places = 0 then if pointed then front ++ ['.'] else front
  else front ++ '.' :: ds.drop (ds.length - places)

/-- The digits of a magnitude with so many behind the point. -/
def fixedDigits (places : Nat) (pointed : Bool) (x : Finite) : List Char :=
  let (num, den) := Double.magnitude x
  withPoint places pointed (roundHalfEven (num * 10 ^ places) den)

/-- A magnitude as a natural with `places + 1` digits and the exponent of the first. -/
def leadingDigits (places : Nat) (x : Finite) : Nat × Int :=
  let (num, den) := Double.magnitude x
  if num = 0 then (0, 0)
  else
    let exponent := decimalExponent num den - 1
    let (unitNum, unitDen) := tenTo (exponent - places)
    let n := roundHalfEven (num * unitDen) (den * unitNum)
    if n = 10 ^ (places + 1) then (10 ^ places, exponent + 1) else (n, exponent)

/-- An exponent with its sign and at least two digits. -/
def exponentDigits (exponent : Int) : List Char :=
  'e' :: (if exponent < 0 then '-' else '+') :: padded 2 exponent.natAbs

/-- The digits of a magnitude with so many behind the point, and the exponent. -/
def scientificDigits (places : Nat) (pointed : Bool) (x : Finite) : List Char :=
  let (n, exponent) := leadingDigits places x
  withPoint places pointed n ++ exponentDigits exponent

/-- Digits without the zeros that end their fraction, and without a bare point. -/
def trimFraction (ds : List Char) : List Char :=
  if ds.contains '.' then
    let kept := ds.reverse.dropWhile (· == '0')
    (kept.dropWhile (· == '.')).reverse
  else ds

/-- At most so many digits of a magnitude, with an exponent if it is very great or very
small; `pointed` keeps all of them. -/
def generalDigits (count : Nat) (pointed : Bool) (x : Finite) : List Char :=
  let count := max count 1
  let (n, exponent) := leadingDigits (count - 1) x
  let shorten (ds : List Char) : List Char := if pointed then ds else trimFraction ds
  if -4 ≤ exponent && exponent < count then
    shorten (fixedDigits (count - 1 - exponent).toNat pointed x)
  else shorten (withPoint (count - 1) pointed n) ++ exponentDigits exponent

end Questionnaire.Decimal
