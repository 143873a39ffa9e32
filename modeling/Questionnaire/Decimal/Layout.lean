/-
How a number is laid out as text.

`plain` is the layout of every number this library writes: the shortest digits that
read back, with a point and at least one digit after it when the leading digit
stands between 10^-4 and 10^16, and otherwise in scientific form with a signed
exponent of at least two digits.
-/
import Questionnaire.Decimal.Shortest

namespace Questionnaire.Decimal

/-- The decisions that turn digits into text. -/
structure Layout where
  /-- The least exponent of the leading digit that is written with a point only. -/
  leastPositional : Int
  /-- The least exponent of the leading digit that is written scientifically again. -/
  leastScientific : Int
  /-- The digits an exponent has at least. -/
  exponentWidth : Nat
  /-- The words for what has no digits. -/
  infinity : String
  nan : String
  /-- Whether a digit stands behind the point in scientific form too. -/
  pointed : Bool

/-- The layout of numbers in answers, messages and documents. -/
def Layout.plain : Layout := ⟨-4, 16, 2, "inf", "nan", false⟩

/-- The layout of numbers in document text, which names the infinities in full. -/
def Layout.document : Layout := { Layout.plain with infinity := "Infinity", nan := "NaN" }

/-- The decimal digits of a natural, filled with zeros in front to the width. -/
def padded (width n : Nat) : List Char :=
  let ds := Nat.toDigits 10 n
  List.replicate (width - ds.length) '0' ++ ds

/-- Digits without the zeros at their end. -/
def dropZeros (ds : List Char) : List Char := (ds.reverse.dropWhile (· == '0')).reverse

/-- The text of positive digits. -/
def Layout.digits (l : Layout) (d : Digits) : List Char :=
  let ds := dropZeros (padded d.count d.value)
  let leading := d.exponent - 1
  if l.leastPositional ≤ leading && leading < l.leastScientific then
    if d.exponent ≤ 0 then '0' :: '.' :: List.replicate (-d.exponent).toNat '0' ++ ds
    else
      let whole := d.exponent.toNat
      let front := ds.take whole ++ List.replicate (whole - ds.length) '0'
      let back := ds.drop whole
      front ++ '.' :: (if back.isEmpty then ['0'] else back)
  else
    let point :=
      if 1 < ds.length then ds.take 1 ++ '.' :: ds.drop 1
      else if l.pointed then ds ++ ['.', '0']
      else ds
    let sign := if leading < 0 then '-' else '+'
    point ++ 'e' :: sign :: padded l.exponentWidth leading.natAbs

/-- The text of a double. -/
def Layout.text (l : Layout) : Double → String
  | .nan => l.nan
  | .infinite negative => (if negative then "-" else "") ++ l.infinity
  | .finite x =>
    let body := if x.mantissa = 0 then ['0', '.', '0'] else l.digits (shortest x)
    String.ofList (if x.negative then '-' :: body else body)

example : Layout.plain.text (.ofDecimal false 1 (-1)) = "0.1" := by decide +kernel
example : Layout.plain.text (.ofDecimal false 1 16) = "1e+16" := by decide +kernel
example : Layout.plain.text (.ofDecimal true 5 (-324)) = "-5e-324" := by decide +kernel
example : Layout.plain.text (.ofDecimal false 112589990684262425 (-2)) = "1125899906842624.2" := by
  decide +kernel

end Questionnaire.Decimal
