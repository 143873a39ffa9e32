/-
Digits drawn one after the other.

Where the number of digits is fixed, they can be had without a search.  The double is scaled
until one digit stands in front of the point, half a unit of the last digit wanted is
added, and digit after digit is taken off in front while the rest is multiplied by ten.  The
arithmetic carries sixty-four bits, and the powers of ten are doubles, so a double that lies at
a half, or close to it, may go either way.
-/
import Questionnaire.Decimal.Layout
import Questionnaire.Decimal.Wide

namespace Questionnaire.Decimal

/-- Half a unit of the last of so many digits behind the point, put together from the doubles
next to powers of ten. -/
def halfUnit : (places : Nat) → Wide
  | places + 10 => (halfUnit places).mul (.ofDecimal 1 (-10))
  | places => .ofDecimal 5 (-(places + 1))

/-! ### Scaling -/

/-- Makes a scale greater by a factor, as long as it stays below the value, and counts the
places. -/
def widen (value factor : Wide) (places : Int) : (steps : Nat) → Wide × Int → Wide × Int
  | 0, scaled => scaled
  | steps + 1, (scale, exponent) =>
    let next := scale.mul factor
    if value.less next then (scale, exponent)
    else widen value factor places steps (next, exponent + places)

/-- Makes a value greater by a factor, as long as it is below a bound, and counts the places. -/
def magnify (bound factor : Wide) (places : Int) : (steps : Nat) → Wide × Int → Wide × Int
  | 0, scaled => scaled
  | steps + 1, (value, exponent) =>
    if value.less bound then
      magnify bound factor places steps (value.mul factor, exponent - places)
    else (value, exponent)

/-- A positive double with one digit in front of the point, and the power of ten that was
taken out.  The steps suffice for every double: none reaches 10^309, or lies below 10^-324. -/
def normalize (x : Finite) : Wide × Int :=
  let value := Wide.ofFinite x
  let (scale, exponent) :=
    widen value (.ofDecimal 10 0) 1 9 <|
    widen value (.ofDecimal 1 10) 10 9 <|
    widen value (.ofDecimal 1 100) 100 3 (.ofDecimal 1 0, 0)
  magnify (.ofDecimal 1 0) (.ofDecimal 10 0) 1 9 <|
  magnify (.ofDecimal 1 (-8)) (.ofDecimal 1 8) 8 41 (value.div scale, exponent)

/-! ### Drawing -/

/-- Draws so many digits, behind those that were drawn before. -/
def draw : (count : Nat) → (drawn : Nat) → Wide → Nat
  | 0, drawn, _ => drawn
  | count + 1, drawn, value =>
    draw count (10 * drawn + value.whole) (value.fraction.mul (.ofDecimal 10 0))

/-- So many digits of a positive double. -/
def drawn (count : Nat) (x : Finite) : Digits :=
  let (value, exponent) := normalize x
  let value := value.add (halfUnit (count - 1))
  if value.less (.ofDecimal 10 0) then ⟨draw count 0 value, count, exponent + 1⟩
  else ⟨draw count 0 (value.mul (.ofDecimal 1 (-1))), count, exponent + 2⟩

/-- The text of a double with at most so many digits; no zero has a sign. -/
def Layout.textIn (l : Layout) (count : Nat) : Double → String
  | .finite x =>
    if x.mantissa = 0 then "0.0"
    else
      let digits := l.digits (drawn count x)
      String.ofList (if x.negative then '-' :: digits else digits)
  | x => l.text x

example : Layout.plain.textIn 15 (.ofDecimal false 1 (-1)) = "0.1" := by decide +kernel
example : Layout.plain.textIn 15 (.ofDecimal false 6794195235700025 (-1)) = "679419523570002.0" := by
  decide +kernel
example : Layout.plain.textIn 15 (.ofDecimal false 9999999999999999 0) = "1e+16" := by
  decide +kernel

end Questionnaire.Decimal
