/-
Numbers of sixty-four significant bits.

Where digits are drawn from a double, the arithmetic in between carries eleven bits more than
a double has.  Such a number is a natural times a power of two, and every operation is its
exact result rounded to sixty-four bits by `ofRatio`, a tie to the even natural.  There
are no signs here, and no bounds on the exponent.
-/
import Questionnaire.Decimal.Double

namespace Questionnaire.Decimal

/-- A number of sixty-four significant bits, `mantissa * 2 ^ exponent`. -/
structure Wide where
  mantissa : Nat
  exponent : Int
  deriving DecidableEq, Repr

namespace Wide

/-- The number nearest to `num / den`, a tie to the even mantissa. -/
def ofRatio (num den : Nat) : Wide :=
  if num = 0 then ⟨0, 0⟩ else
    let exponent := leadingBit num den - 63
    let (n, d) := scaleDown num den exponent
    ⟨roundHalfEven n d, exponent⟩

/-- The value as a quotient. -/
def ratio (w : Wide) : Nat × Nat :=
  if 0 ≤ w.exponent then (w.mantissa * 2 ^ w.exponent.toNat, 1)
  else (w.mantissa, 2 ^ (-w.exponent).toNat)

/-- The magnitude of a double, which fits as it is. -/
def ofFinite (x : Finite) : Wide :=
  let (num, den) := Double.magnitude x
  ofRatio num den

/-- The double nearest to `coefficient * 10 ^ exponent`; zero if there is none. -/
def ofDecimal (coefficient : Nat) (exponent : Int) : Wide :=
  match Double.ofDecimal false coefficient exponent with
  | .finite x => ofFinite x
  | _ => ⟨0, 0⟩

def add (v w : Wide) : Wide :=
  let (a, b) := v.ratio
  let (c, d) := w.ratio
  ofRatio (a * d + c * b) (b * d)

def mul (v w : Wide) : Wide :=
  let (a, b) := v.ratio
  let (c, d) := w.ratio
  ofRatio (a * c) (b * d)

/-- The quotient; the divisor must not be zero. -/
def div (v w : Wide) : Wide :=
  let (a, b) := v.ratio
  let (c, d) := w.ratio
  ofRatio (a * d) (b * c)

/-- Whether a number is less than another. -/
def less (v w : Wide) : Bool :=
  let (a, b) := v.ratio
  let (c, d) := w.ratio
  a * d < c * b

/-- The whole part. -/
def whole (v : Wide) : Nat :=
  let (a, b) := v.ratio
  a / b

/-- What is left without the whole part. -/
def fraction (v : Wide) : Wide :=
  let (a, b) := v.ratio
  ofRatio (a % b) b

example : (ofRatio 1 3).mantissa = 12297829382473034411 := by decide +kernel
example : ((ofRatio 1 3).add (ofRatio 2 3)).ratio.1 = ((ofRatio 1 3).add (ofRatio 2 3)).ratio.2 := by
  decide +kernel

end Wide

end Questionnaire.Decimal
