/-
Rounding depends on the value alone.

`ofRatio` takes a quotient of naturals and looks at its leading bit, scales it and
rounds.  The leading bit is the logarithm of the quotient, so every quotient of the
same value is rounded in the same way, and a double that is given as a quotient is
rounded to itself.  For decimals the first of these says that zeros may move between
the coefficient and the exponent.
-/
import Mathlib.Algebra.Order.Field.Power
import Mathlib.Data.Int.Log
import Mathlib.Data.Rat.Floor
import Mathlib.Tactic.FieldSimp
import Mathlib.Tactic.Linarith
import Mathlib.Tactic.Positivity
import Mathlib.Tactic.Ring
import Questionnaire.Decimal.Double

namespace Questionnaire.Decimal

variable {num den : Nat}

/-! ### The leading bit -/

/-- A quotient that is scaled down has its value divided by the power of two. -/
theorem scaleDown_value (num : Nat) {den : Nat} (hden : 0 < den) (e : Int) :
    0 < (scaleDown num den e).2 ∧
      ((scaleDown num den e).1 : ℚ) / (scaleDown num den e).2 = (num : ℚ) / den / 2 ^ e := by
  have hden' : (den : ℚ) ≠ 0 := by exact_mod_cast hden.ne'
  unfold scaleDown
  by_cases he : 0 ≤ e
  · rw [if_pos he]
    refine ⟨by positivity, ?_⟩
    obtain ⟨n, rfl⟩ := Int.eq_ofNat_of_zero_le he
    simp only [Int.toNat_natCast, zpow_natCast, Nat.cast_mul, Nat.cast_pow, Nat.cast_ofNat]
    rw [div_div]
  · rw [if_neg he]
    refine ⟨hden, ?_⟩
    obtain ⟨n, hn⟩ := Int.eq_ofNat_of_zero_le (show 0 ≤ -e by omega)
    obtain rfl : e = -(n : Int) := by simpa using congrArg Neg.neg hn
    simp only [neg_neg, Int.toNat_natCast, zpow_neg, zpow_natCast, Nat.cast_mul, Nat.cast_pow,
      Nat.cast_ofNat]
    field_simp

theorem scaleDown_mul (num den : Nat) (e : Int) (k : Nat) :
    scaleDown (num * k) (den * k) e =
      ((scaleDown num den e).1 * k, (scaleDown num den e).2 * k) := by
  unfold scaleDown
  split
  · simp only [Nat.mul_right_comm]
  · simp only [Nat.mul_right_comm]

theorem log2_bounds {n : Nat} (h : 0 < n) :
    (2 : ℚ) ^ (n.log2 : Int) ≤ n ∧ (n : ℚ) < 2 ^ ((n.log2 : Int) + 1) := by
  constructor
  · rw [zpow_natCast]
    exact_mod_cast Nat.log2_self_le h.ne'
  · have hlt : n < 2 ^ (n.log2 + 1) := Nat.lt_log2_self
    have hcast : (2 : ℚ) ^ ((n.log2 : Int) + 1) = ((2 ^ (n.log2 + 1) : Nat) : ℚ) := by
      push_cast
      exact_mod_cast zpow_natCast (2 : ℚ) (n.log2 + 1)
    rw [hcast]
    exact_mod_cast hlt

/-- The leading bit of a quotient is its logarithm. -/
theorem leadingBit_eq_log (hnum : 0 < num) (hden : 0 < den) :
    leadingBit num den = Int.log 2 ((num : ℚ) / den) := by
  have hnum' : (0 : ℚ) < num := by exact_mod_cast hnum
  have hden' : (0 : ℚ) < den := by exact_mod_cast hden
  have hvalue : (0 : ℚ) < (num : ℚ) / den := div_pos hnum' hden'
  obtain ⟨hnumLow, hnumHigh⟩ := log2_bounds hnum
  obtain ⟨hdenLow, hdenHigh⟩ := log2_bounds hden
  -- The difference of the two logarithms is right or one too great.
  have hlow : (2 : ℚ) ^ ((num.log2 : Int) - den.log2 - 1) ≤ (num : ℚ) / den := by
    rw [le_div_iff₀ hden']
    calc (2 : ℚ) ^ ((num.log2 : Int) - den.log2 - 1) * den
        ≤ 2 ^ ((num.log2 : Int) - den.log2 - 1) * 2 ^ ((den.log2 : Int) + 1) := by gcongr
      _ = 2 ^ (num.log2 : Int) := by
          rw [← zpow_add₀ (by norm_num)]
          congr 1
          ring
      _ ≤ num := hnumLow
  have hhigh : (num : ℚ) / den < 2 ^ ((num.log2 : Int) - den.log2 + 1) := by
    rw [div_lt_iff₀ hden']
    calc (num : ℚ) < 2 ^ ((num.log2 : Int) + 1) := hnumHigh
      _ = 2 ^ ((num.log2 : Int) - den.log2 + 1) * 2 ^ (den.log2 : Int) := by
          rw [← zpow_add₀ (by norm_num)]
          congr 1
          ring
      _ ≤ 2 ^ ((num.log2 : Int) - den.log2 + 1) * den := by gcongr
  rw [← Nat.cast_ofNat (R := ℚ)] at hlow hhigh
  have hlogLow := (Int.zpow_le_iff_le_log one_lt_two hvalue).mp hlow
  have hlogHigh := (Int.lt_zpow_iff_log_lt one_lt_two hvalue).mp hhigh
  obtain ⟨hscaled, hratio⟩ := scaleDown_value num hden ((num.log2 : Int) - den.log2)
  have hscaled' : (0 : ℚ) < (scaleDown num den ((num.log2 : Int) - den.log2)).2 := by
    exact_mod_cast hscaled
  have htest : (scaleDown num den ((num.log2 : Int) - den.log2)).2 ≤
      (scaleDown num den ((num.log2 : Int) - den.log2)).1 ↔
        (num.log2 : Int) - den.log2 ≤ Int.log 2 ((num : ℚ) / den) := by
    rw [← Int.zpow_le_iff_le_log one_lt_two hvalue, ← Nat.cast_le (α := ℚ), ← one_le_div hscaled',
      hratio, one_le_div (by positivity)]
    norm_num
  unfold leadingBit
  simp only [htest]
  split <;> omega

/-! ### Rounding -/

/-- Rounding looks at the value of a quotient only. -/
theorem roundHalfEven_mul (num den : Nat) {k : Nat} (hk : 0 < k) :
    roundHalfEven (num * k) (den * k) = roundHalfEven num den := by
  unfold roundHalfEven
  simp only [Nat.mul_div_mul_right _ _ hk, Nat.mul_mod_mul_right]
  have hless : 2 * (num % den * k) < den * k ↔ 2 * (num % den) < den := by
    rw [← Nat.mul_assoc]
    exact Nat.mul_lt_mul_right hk
  have hmore : den * k < 2 * (num % den * k) ↔ den < 2 * (num % den) := by
    rw [← Nat.mul_assoc]
    exact Nat.mul_lt_mul_right hk
  simp only [hless, hmore]

theorem roundHalfEven_mul_self (m : Nat) {k : Nat} (hk : 0 < k) : roundHalfEven (m * k) k = m := by
  unfold roundHalfEven
  rw [Nat.mul_div_cancel _ hk, Nat.mul_mod_left]
  exact if_pos hk

namespace Double

/-- **Equal quotients are rounded to one double.** -/
theorem ofRatio_mul (negative : Bool) (num : Nat) {den : Nat} (hden : 0 < den) {k : Nat}
    (hk : 0 < k) :
    ofRatio negative (num * k) (den * k) = ofRatio negative num den := by
  rcases Nat.eq_zero_or_pos num with rfl | hnum
  · rw [Nat.zero_mul]
    rfl
  · have hk' : (k : ℚ) ≠ 0 := by exact_mod_cast hk.ne'
    have hleading : leadingBit (num * k) (den * k) = leadingBit num den := by
      rw [leadingBit_eq_log (Nat.mul_pos hnum hk) (Nat.mul_pos hden hk),
        leadingBit_eq_log hnum hden]
      push_cast
      rw [mul_div_mul_right _ _ hk']
    unfold ofRatio
    rw [if_neg hnum.ne', if_neg (Nat.mul_pos hnum hk).ne', hleading]
    simp only [scaleDown_mul, roundHalfEven_mul _ _ hk]

/-! ### Doubles as quotients -/

theorem magnitude_den_pos (x : Finite) : 0 < (magnitude x).2 := by
  unfold magnitude
  split
  · exact Nat.one_pos
  · positivity

/-- The value of a double. -/
theorem magnitude_value (x : Finite) :
    ((magnitude x).1 : ℚ) / (magnitude x).2 = (x.mantissa : ℚ) * 2 ^ x.exponent := by
  unfold magnitude
  by_cases he : 0 ≤ x.exponent
  · rw [if_pos he]
    obtain ⟨n, hn⟩ := Int.eq_ofNat_of_zero_le he
    simp [hn]
  · rw [if_neg he]
    obtain ⟨n, hn⟩ := Int.eq_ofNat_of_zero_le (show 0 ≤ -x.exponent by omega)
    obtain hn' : x.exponent = -(n : Int) := by omega
    simp [hn', div_eq_mul_inv]

theorem magnitude_pos {x : Finite} (hx : x.mantissa ≠ 0) : 0 < (magnitude x).1 := by
  unfold magnitude
  have hpos := Nat.pos_of_ne_zero hx
  split
  · positivity
  · exact hpos

/-- The leading bit of a double decides its exponent. -/
theorem leadingBit_magnitude {x : Finite} (hx : x.mantissa ≠ 0) :
    max (leadingBit (magnitude x).1 (magnitude x).2 - 52) (-1074) = x.exponent := by
  obtain ⟨hless, hleast, -, hform⟩ := x.canonical
  have hpos : (0 : ℚ) < (x.mantissa : ℚ) * 2 ^ x.exponent := by
    have hmantissa : (0 : ℚ) < x.mantissa := by exact_mod_cast Nat.pos_of_ne_zero hx
    positivity
  rw [leadingBit_eq_log (magnitude_pos hx) (magnitude_den_pos x), magnitude_value]
  have hhigh : Int.log 2 ((x.mantissa : ℚ) * 2 ^ x.exponent) < x.exponent + 53 := by
    rw [← Int.lt_zpow_iff_log_lt one_lt_two hpos, Nat.cast_ofNat, zpow_add₀ (by norm_num), mul_comm]
    gcongr
    exact_mod_cast hless
  rcases hform with hnormal | hsubnormal
  · have hlow : x.exponent + 52 ≤ Int.log 2 ((x.mantissa : ℚ) * 2 ^ x.exponent) := by
      rw [← Int.zpow_le_iff_le_log one_lt_two hpos, Nat.cast_ofNat, zpow_add₀ (by norm_num),
        mul_comm]
      gcongr
      exact_mod_cast hnormal
    omega
  · omega

theorem leadingBit_bounds {x : Finite} (hx : x.mantissa ≠ 0) :
    -1074 ≤ leadingBit (magnitude x).1 (magnitude x).2 ∧
      leadingBit (magnitude x).1 (magnitude x).2 ≤ 1023 := by
  obtain ⟨-, hleast, hgreatest, -⟩ := x.canonical
  have hone : (1 : ℚ) ≤ x.mantissa := by exact_mod_cast Nat.pos_of_ne_zero hx
  have hpos : (0 : ℚ) < (x.mantissa : ℚ) * 2 ^ x.exponent := by positivity
  have hleading := leadingBit_magnitude hx
  refine ⟨?_, by omega⟩
  rw [leadingBit_eq_log (magnitude_pos hx) (magnitude_den_pos x), magnitude_value,
    ← Int.zpow_le_iff_le_log one_lt_two hpos, Nat.cast_ofNat]
  calc (2 : ℚ) ^ (-1074 : Int) ≤ 2 ^ x.exponent := zpow_le_zpow_right₀ (by norm_num) hleast
    _ ≤ x.mantissa * 2 ^ x.exponent := le_mul_of_one_le_left (by positivity) hone

/-- The quotient of a double, scaled by its own exponent, is the mantissa. -/
theorem scaleDown_magnitude (x : Finite) :
    ∃ k, 0 < k ∧ scaleDown (magnitude x).1 (magnitude x).2 x.exponent = (x.mantissa * k, k) := by
  unfold scaleDown magnitude
  by_cases he : 0 ≤ x.exponent
  · rw [if_pos he, if_pos he]
    exact ⟨2 ^ x.exponent.toNat, by positivity, by rw [Nat.one_mul]⟩
  · rw [if_neg he, if_neg he]
    exact ⟨2 ^ (-x.exponent).toNat, by positivity, rfl⟩

/-- **A double given as a quotient is rounded to itself.** -/
theorem ofRatio_magnitude {x : Finite} (hx : x.mantissa ≠ 0) :
    ofRatio x.negative (magnitude x).1 (magnitude x).2 = .finite x := by
  obtain ⟨k, hk, hscaled⟩ := scaleDown_magnitude x
  have hless := x.canonical.1
  unfold ofRatio
  rw [if_neg (magnitude_pos hx).ne']
  simp only [leadingBit_magnitude hx, hscaled, roundHalfEven_mul_self _ hk]
  rw [if_neg hless.ne, ofParts, dif_pos x.canonical]

end Double

end Questionnaire.Decimal
