/-
Double precision numbers, exactly.

A finite double is a sign and a mantissa times a power of two in canonical form:
the mantissa has 53 bits, or fewer at the least exponent.  Nothing here goes
through the machine's floating point, so reading, writing and comparing are
statements about naturals.  `ofRatio` rounds a quotient of naturals to the nearest
double, a tie to the even mantissa; every other operation is its exact value
rounded by `ofRatio`.
-/

namespace Questionnaire.Decimal

/-- Powers are the core ones everywhere, also where monoids are known, which bring another. -/
@[default_instance 20000]
instance (priority := 2000) corePow {α : Type} [NatPow α] : Pow α Nat := instPowNat

/-- The canonical form of a finite double: 53 bits, or the least exponent. -/
def Canonical (mantissa : Nat) (exponent : Int) : Prop :=
  mantissa < 2 ^ 53 ∧ -1074 ≤ exponent ∧ exponent ≤ 971 ∧ (2 ^ 52 ≤ mantissa ∨ exponent = -1074)

instance (m : Nat) (q : Int) : Decidable (Canonical m q) := by
  unfold Canonical; infer_instance

/-- A finite double, `± mantissa * 2 ^ exponent`. -/
structure Finite where
  negative : Bool
  mantissa : Nat
  exponent : Int
  canonical : Canonical mantissa exponent
  deriving DecidableEq

/-- A double precision number. -/
inductive Double
  | finite (x : Finite)
  | infinite (negative : Bool)
  | nan
  deriving DecidableEq

/-- The quotient rounded to the nearest natural, a half to the even one. -/
def roundHalfEven (num den : Nat) : Nat :=
  let q := num / den
  let r := num % den
  if 2 * r < den then q else if den < 2 * r then q + 1 else q + q % 2

/-- `num / den` divided by a power of two, again as a quotient. -/
def scaleDown (num den : Nat) (exponent : Int) : Nat × Nat :=
  if 0 ≤ exponent then (num, den * 2 ^ exponent.toNat) else (num * 2 ^ (-exponent).toNat, den)

/-- The position of the leading bit of `num / den`. -/
def leadingBit (num den : Nat) : Int :=
  let e : Int := num.log2 - den.log2
  let (n, d) := scaleDown num den e
  if d ≤ n then e else e - 1

namespace Double

def zero (negative : Bool) : Double :=
  .finite ⟨negative, 0, -1074, by decide⟩

/-- The double with this mantissa and exponent; infinite beyond the greatest. -/
def ofParts (negative : Bool) (mantissa : Nat) (exponent : Int) : Double :=
  if h : Canonical mantissa exponent then .finite ⟨negative, mantissa, exponent, h⟩
  else .infinite negative

/-- The double nearest to `num / den`, a tie to the even mantissa. -/
def ofRatio (negative : Bool) (num den : Nat) : Double :=
  if num = 0 then zero negative else
    let exponent := max (leadingBit num den - 52) (-1074)
    let (n, d) := scaleDown num den exponent
    let mantissa := roundHalfEven n d
    if mantissa = 2 ^ 53 then ofParts negative (2 ^ 52) (exponent + 1)
    else ofParts negative mantissa exponent

/-- The number of decimal digits of a natural. -/
def digitCount (n : Nat) : Nat := (Nat.toDigits 10 n).length

/-- The double nearest to `coefficient * 10 ^ exponent`.  Magnitudes that are far
out of range are decided by the position of the leading digit alone. -/
def ofDecimal (negative : Bool) (coefficient : Nat) (exponent : Int) : Double :=
  let top := exponent + digitCount coefficient
  if coefficient = 0 || top < -400 then zero negative
  else if 400 < top then .infinite negative
  else if 0 ≤ exponent then ofRatio negative (coefficient * 10 ^ exponent.toNat) 1
  else ofRatio negative coefficient (10 ^ (-exponent).toNat)

/-- The double nearest to a whole number. -/
def ofInt (n : Int) : Double := ofRatio (n < 0) n.natAbs 1

/-- The magnitude of a finite double as a quotient. -/
def magnitude (x : Finite) : Nat × Nat :=
  if 0 ≤ x.exponent then (x.mantissa * 2 ^ x.exponent.toNat, 1)
  else (x.mantissa, 2 ^ (-x.exponent).toNat)

/-- The value of a finite double as a signed numerator and a denominator. -/
def ratio (x : Finite) : Int × Nat :=
  let (num, den) := magnitude x
  (if x.negative then -(num : Int) else num, den)

/-- The nearest double to a signed quotient; a zero has the sign given. -/
def ofSigned (zeroNegative : Bool) (num : Int) (den : Nat) : Double :=
  ofRatio (if num = 0 then zeroNegative else num < 0) num.natAbs den

def isZero : Double → Bool
  | .finite x => x.mantissa = 0
  | _ => false

/-- The order of two finite doubles by value. -/
def compare (x y : Finite) : Ordering :=
  let (a, b) := ratio x
  let (c, d) := ratio y
  Ord.compare (a * d) (c * b)

/-- Equality of values: both zeros are equal and NaN differs from itself. -/
def equal : Double → Double → Bool
  | .finite x, .finite y => compare x y == .eq
  | .infinite s, .infinite t => s == t
  | _, _ => false

/-- Whether a double has the value of a whole number. -/
def equalInt (x : Double) (n : Int) : Bool :=
  match x with
  | .finite x =>
    let (num, den) := ratio x
    num == n * den
  | _ => false

/-- Strictly greater than a whole number. -/
def exceeds (x : Double) (n : Int) : Bool :=
  match x with
  | .finite x =>
    let (num, den) := ratio x
    n * den < num
  | .infinite negative => !negative
  | .nan => false

/-- The whole part of a finite double, toward zero. -/
def truncate (x : Finite) : Int :=
  let (num, den) := ratio x
  num.tdiv den

/-- The greatest whole number not above a finite double. -/
def floor (x : Finite) : Int :=
  let (num, den) := ratio x
  num.fdiv den

/-- The whole number nearest to a finite double, a half to the even one. -/
def nearest (x : Finite) : Int :=
  let (num, den) := magnitude x
  let n : Int := roundHalfEven num den
  if x.negative then -n else n

end Double

end Questionnaire.Decimal
