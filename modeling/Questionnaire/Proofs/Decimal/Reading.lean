/-
Decimals that are read as doubles.

A decimal is a coefficient and an exponent, and zeros may move from the one to the
other: `ofDecimal_mul_pow`.  The digits that `shortest` finds for a double read back as
it, by construction for those from the search and by exact arithmetic for the full
expansion behind it, and there are exactly as many as announced: `shortest_proper`.
-/
import Questionnaire.Decimal.Shortest
import Questionnaire.Proofs.Decimal.Rounding

namespace Questionnaire.Decimal

namespace Double

/-! ### Counting digits -/

theorem digitCount_pos (n : Nat) : 0 < digitCount n := Nat.length_toDigits_pos

theorem digitCount_le_iff {n k : Nat} (hk : 0 < k) : digitCount n ≤ k ↔ n < 10 ^ k :=
  Nat.length_toDigits_le_iff (by decide) hk

theorem lt_pow_digitCount (n : Nat) : n < 10 ^ digitCount n :=
  (digitCount_le_iff (digitCount_pos n)).mp (Nat.le_refl _)

theorem pow_le_of_pos {n : Nat} (hn : 0 < n) : 10 ^ (digitCount n - 1) ≤ n := by
  rcases Nat.eq_zero_or_pos (digitCount n - 1) with hone | hmore
  · rw [hone]
    exact hn
  · by_contra hless
    have hle := (digitCount_le_iff hmore).mpr (Nat.lt_of_not_le hless)
    omega

/-- A number between two powers of ten has as many digits as the upper one says. -/
theorem digitCount_eq {n k : Nat} (hlow : 10 ^ k ≤ n) (hhigh : n < 10 ^ (k + 1)) :
    digitCount n = k + 1 := by
  have hle := (digitCount_le_iff (Nat.succ_pos k)).mpr hhigh
  rcases Nat.eq_zero_or_pos k with rfl | hk
  · have hpos := digitCount_pos n
    omega
  · have hnot : ¬digitCount n ≤ k := by
      rw [digitCount_le_iff hk]
      omega
    omega

theorem digitCount_mul_pow {n : Nat} (hn : 0 < n) (k : Nat) :
    digitCount (n * 10 ^ k) = digitCount n + k := by
  have hpos := digitCount_pos n
  have hlow : 10 ^ (digitCount n - 1 + k) ≤ n * 10 ^ k := by
    rw [pow_add]
    exact Nat.mul_le_mul_right _ (pow_le_of_pos hn)
  have hhigh : n * 10 ^ k < 10 ^ (digitCount n - 1 + k + 1) := by
    have hexponent : digitCount n - 1 + k + 1 = digitCount n + k := by omega
    rw [hexponent, pow_add]
    exact Nat.mul_lt_mul_of_pos_right (lt_pow_digitCount n) (by positivity)
  rw [digitCount_eq hlow hhigh]
  omega

/-! ### Moving zeros -/

/-- **Zeros at the end of a coefficient count as powers of ten.** -/
theorem ofDecimal_mul_pow (negative : Bool) (coefficient k : Nat) (exponent : Int) :
    ofDecimal negative (coefficient * 10 ^ k) exponent =
      ofDecimal negative coefficient (exponent + k) := by
  rcases Nat.eq_zero_or_pos coefficient with rfl | hpos
  · simp [ofDecimal]
  · have hzero : coefficient * 10 ^ k ≠ 0 := by positivity
    have htop : exponent + (digitCount (coefficient * 10 ^ k) : Int) =
        exponent + k + (digitCount coefficient : Int) := by
      rw [digitCount_mul_pow hpos]
      push_cast
      ring
    have hratio :
        (if 0 ≤ exponent then ofRatio negative (coefficient * 10 ^ k * 10 ^ exponent.toNat) 1
          else ofRatio negative (coefficient * 10 ^ k) (10 ^ (-exponent).toNat)) =
        if 0 ≤ exponent + k then ofRatio negative (coefficient * 10 ^ (exponent + k).toNat) 1
          else ofRatio negative coefficient (10 ^ (-(exponent + k)).toNat) := by
      by_cases he : 0 ≤ exponent
      · have hsum : (exponent + k).toNat = k + exponent.toNat := by omega
        rw [if_pos he, if_pos (by omega), hsum, pow_add, Nat.mul_assoc]
      · rw [if_neg he]
        by_cases hsum : 0 ≤ exponent + k
        · have hk : k = (exponent + k).toNat + (-exponent).toNat := by omega
          have hmul := ofRatio_mul negative (coefficient * 10 ^ (exponent + k).toNat) Nat.one_pos
            (k := 10 ^ (-exponent).toNat) (by positivity)
          rw [if_pos hsum, ← hmul, Nat.one_mul, Nat.mul_assoc, ← pow_add, ← hk]
        · have hk : (-exponent).toNat = (-(exponent + k)).toNat + k := by omega
          have hden : 0 < 10 ^ (-(exponent + k)).toNat := by positivity
          have hmul := ofRatio_mul negative coefficient hden (k := 10 ^ k) (by positivity)
          rw [if_neg hsum, ← hmul, ← pow_add, ← hk]
    unfold ofDecimal
    simp only [htop, hratio, hzero, hpos.ne']

end Double

/-! ### The exponent of a double -/

theorem tenTo_value (e : Int) :
    0 < (tenTo e).1 ∧ 0 < (tenTo e).2 ∧ ((tenTo e).1 : ℚ) / (tenTo e).2 = 10 ^ e := by
  unfold tenTo
  by_cases he : 0 ≤ e
  · obtain ⟨n, rfl⟩ := Int.eq_ofNat_of_zero_le he
    rw [if_pos he]
    exact ⟨by positivity, Nat.one_pos, by simp⟩
  · obtain ⟨n, hn⟩ := Int.eq_ofNat_of_zero_le (show 0 ≤ -e by omega)
    obtain rfl : e = -(n : Int) := by omega
    rw [if_neg he]
    exact ⟨Nat.one_pos, by positivity, by simp⟩

/-- The test of the search says whether a power of ten exceeds a quotient. -/
theorem lt_tenTo_iff {num den : Nat} (hden : 0 < den) (e : Int) :
    num * (tenTo e).2 < (tenTo e).1 * den ↔ (num : ℚ) / den < 10 ^ e := by
  obtain ⟨-, hq, hvalue⟩ := tenTo_value e
  have hden' : (0 : ℚ) < den := by exact_mod_cast hden
  have hq' : (0 : ℚ) < (tenTo e).2 := by exact_mod_cast hq
  rw [← hvalue, div_lt_div_iff₀ hden' hq']
  exact_mod_cast Iff.rfl

/-- A power of ten is at most a power of two where three tenths and a bit of its exponent reach. -/
theorem ten_zpow_le_two_pow {a : Int} {b : Nat} (h : 1000 * a ≤ 301 * b) :
    (10 : ℚ) ^ a ≤ 2 ^ (b : Int) := by
  have hbase : (10 : ℚ) ^ 301 ≤ 2 ^ 1000 := by
    exact_mod_cast (by decide +kernel : 10 ^ 301 ≤ 2 ^ 1000)
  refine le_of_pow_le_pow_left₀ (show 1000 ≠ 0 by decide) (by positivity) ?_
  calc ((10 : ℚ) ^ a) ^ 1000 = 10 ^ (a * 1000) := by
        rw [← zpow_natCast, ← zpow_mul]
        rfl
    _ ≤ 10 ^ ((301 * b : Nat) : Int) := zpow_le_zpow_right₀ (by norm_num) (by push_cast; omega)
    _ = (10 ^ 301) ^ b := by rw [zpow_natCast, pow_mul]
    _ ≤ (2 ^ 1000) ^ b := pow_le_pow_left₀ (by positivity) hbase b
    _ = (2 ^ (b : Int)) ^ 1000 := by rw [zpow_natCast, ← pow_mul, ← pow_mul, Nat.mul_comm]

/-- A power of two is at most a power of ten where its exponent is a bit more than that. -/
theorem two_pow_le_ten_zpow {a : Int} {b : Nat} (h : 3011 * b ≤ 10000 * a) :
    (2 : ℚ) ^ (b : Int) ≤ 10 ^ a := by
  have hbase : (2 : ℚ) ^ 10000 ≤ 10 ^ 3011 := by
    exact_mod_cast (by decide +kernel : 2 ^ 10000 ≤ 10 ^ 3011)
  refine le_of_pow_le_pow_left₀ (show 10000 ≠ 0 by decide) (by positivity) ?_
  calc ((2 : ℚ) ^ (b : Int)) ^ 10000 = (2 ^ 10000) ^ b := by
        rw [zpow_natCast, ← pow_mul, ← pow_mul, Nat.mul_comm]
    _ ≤ (10 ^ 3011) ^ b := pow_le_pow_left₀ (by positivity) hbase b
    _ = 10 ^ ((3011 * b : Nat) : Int) := by rw [zpow_natCast, pow_mul]
    _ ≤ 10 ^ (a * 10000) := zpow_le_zpow_right₀ (by norm_num) (by push_cast; omega)
    _ = (10 ^ a) ^ 10000 := by
        rw [← zpow_natCast, ← zpow_mul]
        rfl

/-- The estimate from the leading bit of a double is not too great, and two too small at most. -/
theorem estimate_bounds {bit : Int} (hlow : -1074 ≤ bit) (hhigh : bit ≤ 1023) :
    (10 : ℚ) ^ ((bit * 30103).fdiv 100000 - 1) ≤ 2 ^ bit ∧
      (2 : ℚ) ^ (bit + 1) ≤ 10 ^ ((bit * 30103).fdiv 100000 + 2) := by
  rw [Int.fdiv_eq_ediv_of_nonneg _ (by decide)]
  rcases Int.le_total 0 bit with hpos | hneg
  · obtain ⟨b, rfl⟩ := Int.eq_ofNat_of_zero_le hpos
    refine ⟨ten_zpow_le_two_pow (by omega), ?_⟩
    exact two_pow_le_ten_zpow (b := b + 1) (by push_cast; omega)
  · -- Below one, the inverses are compared.
    obtain ⟨b, hb⟩ := Int.eq_ofNat_of_zero_le (show 0 ≤ -bit by omega)
    obtain rfl : bit = -(b : Int) := by omega
    constructor
    · have hinverse := two_pow_le_ten_zpow (a := -(-(b : Int) * 30103 / 100000 - 1)) (b := b)
        (by omega)
      rw [zpow_neg, zpow_natCast] at hinverse
      rw [zpow_neg, zpow_natCast]
      exact (le_inv_comm₀ (by positivity) (by positivity)).mp hinverse
    · rcases Nat.eq_zero_or_pos b with rfl | hb'
      · exact two_pow_le_ten_zpow (b := 1) (by omega)
      · have hinverse := ten_zpow_le_two_pow (a := -(-(b : Int) * 30103 / 100000 + 2)) (b := b - 1)
          (by omega)
        have hexponent : -(b : Int) + 1 = -((b - 1 : Nat) : Int) := by omega
        rw [zpow_neg, zpow_natCast] at hinverse
        rw [hexponent, zpow_neg, zpow_natCast]
        exact (inv_le_comm₀ (by positivity) (by positivity)).mp hinverse

/-- The exponent of a double: the power of ten below it and the one above. -/
theorem decimalExponent_bounds {x : Finite} (hx : x.mantissa ≠ 0) :
    let exponent := decimalExponent (Double.magnitude x).1 (Double.magnitude x).2
    (10 : ℚ) ^ (exponent - 1) ≤ ((Double.magnitude x).1 : ℚ) / (Double.magnitude x).2 ∧
      ((Double.magnitude x).1 : ℚ) / (Double.magnitude x).2 < 10 ^ exponent := by
  have hnum := Double.magnitude_pos hx
  have hden := Double.magnitude_den_pos x
  have hvalue : (0 : ℚ) < ((Double.magnitude x).1 : ℚ) / (Double.magnitude x).2 := by positivity
  obtain ⟨hleast, hgreatest⟩ := Double.leadingBit_bounds hx
  have hbit := leadingBit_eq_log hnum hden
  have hlow := (Int.zpow_le_iff_le_log one_lt_two hvalue).mpr hbit.le
  have hhigh := (Int.lt_zpow_iff_log_lt one_lt_two hvalue).mpr (Int.lt_add_one_of_le hbit.ge)
  obtain ⟨hbelow, habove⟩ := estimate_bounds hleast hgreatest
  unfold decimalExponent
  simp only [lt_tenTo_iff hden, decide_eq_true_iff]
  generalize (leadingBit _ _ * 30103).fdiv 100000 = estimate at hbelow habove ⊢
  push_cast at hlow hhigh
  split
  case isTrue hfirst => exact ⟨hbelow.trans hlow, hfirst⟩
  case isFalse hfirst =>
    rw [not_lt] at hfirst
    split
    case isTrue hsecond => exact ⟨by rwa [add_sub_cancel_right], hsecond⟩
    case isFalse hsecond =>
      rw [not_lt] at hsecond
      refine ⟨?_, hhigh.trans_le habove⟩
      rwa [show estimate + 2 - 1 = estimate + 1 by ring]

/-! ### The digits of a double -/

/-- Digits of which there are as many as announced. -/
structure Digits.Proper (d : Digits) : Prop where
  counted : 0 < d.count
  least : 10 ^ (d.count - 1) ≤ d.value
  greatest : d.value < 10 ^ d.count

theorem Digits.onGrid_proper {count value : Nat} (hcount : 0 < count) (exponent : Int)
    (hlow : 10 ^ (count - 1) ≤ value) (hhigh : value ≤ 10 ^ count) :
    (Digits.onGrid count exponent value).Proper := by
  unfold Digits.onGrid
  split
  case isTrue heq =>
    exact ⟨hcount, Nat.le_refl _, Nat.pow_lt_pow_right (by decide) (Nat.sub_lt hcount Nat.one_pos)⟩
  case isFalse hne => exact ⟨hcount, hlow, Nat.lt_of_le_of_ne hhigh hne⟩

/-- A double has as many digits on a grid as the grid is wide. -/
theorem grid_bounds {x : Finite} (hx : x.mantissa ≠ 0) {count : Nat} (hcount : 0 < count) :
    let exponent := decimalExponent (Double.magnitude x).1 (Double.magnitude x).2
    let n := (Double.magnitude x).1 * (tenTo (exponent - count)).2
    let d := (Double.magnitude x).2 * (tenTo (exponent - count)).1
    10 ^ (count - 1) ≤ n / d ∧ n / d < 10 ^ count := by
  intro exponent n d
  obtain ⟨hlow, hhigh⟩ := decimalExponent_bounds hx
  obtain ⟨hp, hq, hunit⟩ := tenTo_value (exponent - count)
  have hden := Double.magnitude_den_pos x
  have hd : 0 < d := Nat.mul_pos hden hp
  have hd' : (0 : ℚ) < d := by exact_mod_cast hd
  have hvalue : (n : ℚ) / d =
      ((Double.magnitude x).1 : ℚ) / (Double.magnitude x).2 / 10 ^ (exponent - count) := by
    rw [← hunit, div_div_div_eq]
    push_cast [n, d]
    rfl
  constructor
  · rw [Nat.le_div_iff_mul_le hd]
    have hle : (10 : ℚ) ^ (count - 1) ≤ (n : ℚ) / d := by
      rw [hvalue, le_div_iff₀ (by positivity)]
      calc (10 : ℚ) ^ (count - 1) * 10 ^ (exponent - count) = 10 ^ (exponent - 1) := by
            rw [← zpow_natCast, ← zpow_add₀ (by norm_num)]
            congr 1
            omega
        _ ≤ _ := hlow
    rw [le_div_iff₀ hd'] at hle
    exact_mod_cast hle
  · rw [Nat.div_lt_iff_lt_mul hd]
    have hlt : (n : ℚ) / d < 10 ^ count := by
      rw [hvalue, div_lt_iff₀ (by positivity)]
      calc _ < (10 : ℚ) ^ exponent := hhigh
        _ = 10 ^ count * 10 ^ (exponent - count) := by
            rw [← zpow_natCast, ← zpow_add₀ (by norm_num)]
            congr 1
            omega
    rw [div_lt_iff₀ hd'] at hlt
    exact_mod_cast hlt

/-- A neighbour that was found reads back, and lies on the grid beside the double. -/
theorem neighbour?_eq_some {x : Finite} {exponent : Int} {count : Nat} {d : Digits}
    (h : neighbour? x exponent count = some d) :
    d.readsBack x = true ∧ ∃ above : Nat, above ≤ 1 ∧
      d = Digits.onGrid count exponent
        ((Double.magnitude x).1 * (tenTo (exponent - count)).2 /
          ((Double.magnitude x).2 * (tenTo (exponent - count)).1) + above) := by
  have hboth : ∀ {first second : Digits},
      (if first.readsBack x then some first else if second.readsBack x then some second else none) =
        some d → d.readsBack x = true ∧ (d = first ∨ d = second) := by
    intro first second hfound
    split at hfound
    case isTrue hfirst =>
      obtain rfl := Option.some.inj hfound
      exact ⟨hfirst, Or.inl rfl⟩
    case isFalse =>
      split at hfound
      case isTrue hsecond =>
        obtain rfl := Option.some.inj hfound
        exact ⟨hsecond, Or.inr rfl⟩
      case isFalse => cases hfound
  unfold neighbour? at h
  simp only at h
  -- Which of the two neighbours is asked first makes no difference here.
  generalize (_ || _ : Bool) = nearerAbove at h
  cases nearerAbove with
  | true =>
      obtain ⟨hback, rfl | rfl⟩ := hboth h
      · exact ⟨hback, 1, Nat.le_refl 1, rfl⟩
      · exact ⟨hback, 0, Nat.zero_le 1, rfl⟩
  | false =>
      obtain ⟨hback, rfl | rfl⟩ := hboth h
      · exact ⟨hback, 0, Nat.zero_le 1, rfl⟩
      · exact ⟨hback, 1, Nat.le_refl 1, rfl⟩

/-! ### The full expansion -/

/-- All digits of a double, as a natural. -/
theorem exact_value (x : Finite) :
    ((exact x).value : ℚ) = (x.mantissa : ℚ) * 2 ^ x.exponent * 10 ^ (-min x.exponent 0) := by
  unfold exact
  by_cases he : 0 ≤ x.exponent
  · obtain ⟨n, hn⟩ := Int.eq_ofNat_of_zero_le he
    rw [min_eq_right he]
    simp [hn]
  · obtain ⟨n, hn⟩ := Int.eq_ofNat_of_zero_le (show 0 ≤ -x.exponent by omega)
    obtain hn' : x.exponent = -(n : Int) := by omega
    rw [min_eq_left (by omega)]
    have hpow : (10 : ℚ) ^ n = 2 ^ n * 5 ^ n := by rw [← mul_pow]; norm_num
    simp only [hn', if_neg (show ¬(0 : Int) ≤ -(n : Int) by omega), neg_neg, Int.toNat_natCast,
      zpow_neg, zpow_natCast, hpow, Nat.cast_mul, Nat.cast_pow, Nat.cast_ofNat]
    field_simp

theorem exact_proper {x : Finite} (hx : x.mantissa ≠ 0) : (exact x).Proper := by
  have hpos : 0 < (exact x).value := by
    unfold exact
    have hmantissa := Nat.pos_of_ne_zero hx
    simp only
    split <;> positivity
  exact ⟨Double.digitCount_pos _, Double.pow_le_of_pos hpos, Double.lt_pow_digitCount _⟩

/-- The leading digit of a double is far from where magnitudes are not looked at any more. -/
theorem exact_exponent_bounds {x : Finite} (hx : x.mantissa ≠ 0) :
    -400 ≤ (exact x).exponent ∧ (exact x).exponent ≤ 400 := by
  obtain ⟨hcount, hleast, hgreatest⟩ := exact_proper hx
  obtain ⟨hless, hlow, hhigh, -⟩ := x.canonical
  have hexponent : (exact x).exponent = (exact x).count + min x.exponent 0 := rfl
  have hone : (1 : ℚ) ≤ x.mantissa := by exact_mod_cast Nat.pos_of_ne_zero hx
  have hvalue : ((exact x).value : ℚ) * 10 ^ (min x.exponent 0) =
      (x.mantissa : ℚ) * 2 ^ x.exponent := by
    rw [exact_value, mul_assoc, ← zpow_add₀ (by norm_num), neg_add_cancel, zpow_zero, mul_one]
  constructor
  · have hbound : (10 : ℚ) ^ (-400 : Int) < 10 ^ (exact x).exponent := by
      calc (10 : ℚ) ^ (-400 : Int) ≤ 2 ^ (-1074 : Int) := by
            rw [zpow_neg, zpow_neg]
            exact inv_anti₀ (by positivity) (two_pow_le_ten_zpow (b := 1074) (by decide))
        _ ≤ 2 ^ x.exponent := zpow_le_zpow_right₀ (by norm_num) hlow
        _ ≤ x.mantissa * 2 ^ x.exponent := le_mul_of_one_le_left (by positivity) hone
        _ = (exact x).value * 10 ^ (min x.exponent 0) := hvalue.symm
        _ < 10 ^ (exact x).count * 10 ^ (min x.exponent 0) := by
            gcongr
            exact_mod_cast hgreatest
        _ = 10 ^ (exact x).exponent := by
            rw [hexponent, zpow_add₀ (by norm_num), zpow_natCast]
    exact ((zpow_lt_zpow_iff_right₀ (by norm_num)).mp hbound).le
  · have hbound : (10 : ℚ) ^ ((exact x).exponent - 1) < 10 ^ (400 : Int) := by
      calc (10 : ℚ) ^ ((exact x).exponent - 1)
          = 10 ^ ((exact x).count - 1) * 10 ^ (min x.exponent 0) := by
            rw [hexponent, ← zpow_natCast, ← zpow_add₀ (by norm_num)]
            congr 1
            omega
        _ ≤ (exact x).value * 10 ^ (min x.exponent 0) := by
            gcongr
            exact_mod_cast hleast
        _ = x.mantissa * 2 ^ x.exponent := hvalue
        _ < 2 ^ 53 * 2 ^ (971 : Int) := by
            have hmantissa : (x.mantissa : ℚ) < 2 ^ 53 := by exact_mod_cast hless
            have hscale : (2 : ℚ) ^ x.exponent ≤ 2 ^ (971 : Int) :=
              zpow_le_zpow_right₀ (by norm_num) hhigh
            exact mul_lt_mul hmantissa hscale (by positivity) (by positivity)
        _ = 2 ^ ((1024 : Nat) : Int) := by
            rw [← zpow_natCast, ← zpow_add₀ (by norm_num)]
            rfl
        _ ≤ 10 ^ (400 : Int) := two_pow_le_ten_zpow (by decide)
    have hlt := (zpow_lt_zpow_iff_right₀ (by norm_num)).mp hbound
    omega

theorem exact_readsBack {x : Finite} (hx : x.mantissa ≠ 0) : (exact x).readsBack x = true := by
  obtain ⟨hlow, hhigh⟩ := exact_exponent_bounds hx
  have hcount : (exact x).count = Double.digitCount (exact x).value := rfl
  have hplaces : (exact x).exponent - (exact x).count = min x.exponent 0 := by
    show ((exact x).count : Int) + min x.exponent 0 - (exact x).count = _
    omega
  have hpos : 0 < (exact x).value := by
    obtain ⟨-, hleast, -⟩ := exact_proper hx
    exact Nat.lt_of_lt_of_le (by positivity) hleast
  have htop :
      min x.exponent 0 + (Double.digitCount (exact x).value : Int) = (exact x).exponent := by
    rw [← hcount, ← hplaces]
    omega
  unfold Digits.readsBack Digits.read Double.ofDecimal
  rw [hplaces, decide_eq_true_iff]
  simp only [htop]
  rw [if_neg (by simp; omega), if_neg (by omega)]
  have hself := Double.ofRatio_magnitude hx
  unfold Double.magnitude at hself
  unfold exact
  by_cases he : 0 ≤ x.exponent
  · rw [min_eq_right he]
    simpa [he] using hself
  · have hden : 0 < 2 ^ (-x.exponent).toNat := by positivity
    have hmul := Double.ofRatio_mul x.negative x.mantissa hden (k := 5 ^ (-x.exponent).toNat)
      (by positivity)
    rw [if_neg he] at hself
    rw [min_eq_left (by omega), if_neg he, if_neg he, show 10 = 2 * 5 from rfl, mul_pow, hmul]
    exact hself

/--
**The digits of a double read back as it**, and there are as many as announced.
-/
theorem shortest_readsBack {x : Finite} (hx : x.mantissa ≠ 0) :
    (shortest x).readsBack x = true ∧ (shortest x).Proper := by
  unfold shortest
  simp only
  cases hfound : (List.range 17).findSome? fun n =>
      neighbour? x (decimalExponent (Double.magnitude x).1 (Double.magnitude x).2) (n + 1) with
  | none => exact ⟨exact_readsBack hx, exact_proper hx⟩
  | some d =>
      obtain ⟨n, -, hneighbour⟩ := List.exists_of_findSome?_eq_some hfound
      obtain ⟨hback, above, habove, hgrid⟩ := neighbour?_eq_some hneighbour
      have hcount : 0 < n + 1 := Nat.succ_pos n
      obtain ⟨hlow, hhigh⟩ := grid_bounds hx hcount
      refine ⟨hback, ?_⟩
      show d.Proper
      rw [hgrid]
      exact Digits.onGrid_proper hcount _ (by omega) (by omega)

end Questionnaire.Decimal
