/-
Numbers that were written are read back.

A number is written as digits with a sign, and a double with a point or an exponent too,
so that it is never taken for a whole number.  What comes behind the number must not go
on with it, which `Ends` says.  A whole number is read back if a numeral may have so
many digits; a double always is, since its digits read back and laying them out moves
zeros only.
-/
import Mathlib.Data.List.TakeWhile
import Questionnaire.Json.Reader
import Questionnaire.Json.Writer
import Questionnaire.Proofs.Decimal.Reading

namespace Questionnaire.Json

open Decimal (Double Digits Layout)

/-- What follows a number does not go on with it. -/
def Ends (rest : List Char) : Prop :=
  ∀ c ∈ rest.head?, isDigit c = false ∧ c ≠ '.' ∧ c ≠ 'e' ∧ c ≠ 'E'

/-! ### Digits -/

variable {ds rest : List Char}

theorem isDigit_of_mem_toDigits {n : Nat} {c : Char} (h : c ∈ Nat.toDigits 10 n) :
    isDigit c = true :=
  Nat.isDigit_of_mem_toDigits (by decide) (by decide) h

theorem digitsValue_eq (ds : List Char) : digitsValue ds = Nat.ofDigitChars 10 ds 0 := by
  rw [digitsValue, Text.ofDigits, List.foldl_map]
  rfl

theorem takeWhile_digits (hds : ∀ c ∈ ds, isDigit c = true)
    (hrest : ∀ c ∈ rest.head?, isDigit c = false) : (ds ++ rest).takeWhile isDigit = ds := by
  rw [List.takeWhile_append_of_pos hds]
  cases rest with
  | nil => simp
  | cons c rest => rw [List.takeWhile_cons_of_neg (by simp [hrest c rfl]), List.append_nil]

theorem dropWhile_digits (hds : ∀ c ∈ ds, isDigit c = true)
    (hrest : ∀ c ∈ rest.head?, isDigit c = false) : (ds ++ rest).dropWhile isDigit = rest := by
  rw [List.dropWhile_append_of_pos hds]
  cases rest with
  | nil => rfl
  | cons c rest => rw [List.dropWhile_cons_of_neg (by simp [hrest c rfl])]

/-- Digits that start with a zero write a smaller number. -/
theorem ofDigitChars_lt (hds : ∀ c ∈ ds, isDigit c = true) :
    Nat.ofDigitChars 10 ds 0 < 10 ^ ds.length := by
  induction ds with
  | nil => simp
  | cons c ds ih =>
      have hc : c.toNat - '0'.toNat ≤ 9 := by
        have hdigit := hds c List.mem_cons_self
        rw [isDigit, Bool.and_eq_true, decide_eq_true_iff, decide_eq_true_iff] at hdigit
        have hle : c.toNat ≤ '9'.toNat := hdigit.2
        show c.toNat - 48 ≤ 9
        have hnine : '9'.toNat = 57 := rfl
        omega
      have hrest := ih fun d hd => hds d (List.mem_cons_of_mem c hd)
      rw [Nat.ofDigitChars_cons, Nat.ofDigitChars_eq_ofDigitChars_zero, List.length_cons, pow_succ]
      have hmul : 10 ^ ds.length * (10 * 0 + (c.toNat - '0'.toNat)) ≤ 10 ^ ds.length * 9 :=
        Nat.mul_le_mul_left _ (by omega)
      omega

/-- The digits of a number other than zero do not start with a zero. -/
theorem head?_toDigits {n : Nat} (hn : 0 < n) : (Nat.toDigits 10 n).head? ≠ some '0' := by
  intro hzero
  obtain ⟨ds, hds⟩ : ∃ ds, Nat.toDigits 10 n = '0' :: ds := List.head?_eq_some_iff.mp hzero
  have hvalue : Nat.ofDigitChars 10 ds 0 = n := by
    have hwhole := Nat.ofDigitChars_ten_toDigits (n := n)
    rw [hds] at hwhole
    exact hwhole
  have hlow := Double.pow_le_of_pos hn
  have hcount : Double.digitCount n = ds.length + 1 := by
    rw [Double.digitCount, hds]
    rfl
  have hhigh : Nat.ofDigitChars 10 ds 0 < 10 ^ ds.length := by
    refine ofDigitChars_lt fun c hc => isDigit_of_mem_toDigits (n := n) ?_
    rw [hds]
    exact List.mem_cons_of_mem _ hc
  rw [hcount, Nat.add_sub_cancel] at hlow
  omega

/-! ### The parts of a number -/

/-- Digits that can be the whole part of a number: a lone zero, or no zero in front. -/
structure Whole (ds : List Char) : Prop where
  digits : ∀ c ∈ ds, isDigit c = true
  nonempty : ds ≠ []
  lead : ds.head? = some '0' → ds = ['0']

theorem whole_toDigits (n : Nat) : Whole (Nat.toDigits 10 n) where
  digits _ := isDigit_of_mem_toDigits
  nonempty := Nat.toDigits_ne_nil
  lead hzero := by
    rcases Nat.eq_zero_or_pos n with rfl | hn
    · rfl
    · exact absurd hzero (head?_toDigits hn)

theorem isDigit_zero : ∀ c ∈ ['0'], isDigit c = true := by simp [isDigit]

theorem whole_zero : Whole ['0'] := ⟨isDigit_zero, by simp, fun _ => rfl⟩

theorem wholePart?_append (hds : Whole ds) (hrest : ∀ c ∈ rest.head?, isDigit c = false) :
    wholePart? (ds ++ rest) = some (ds, rest) := by
  obtain ⟨hdigits, hnonempty, hlead⟩ := hds
  have htake := takeWhile_digits hdigits hrest
  have hdrop := dropWhile_digits hdigits hrest
  unfold wholePart?
  split
  case h_1 tail heq =>
    have hhead : ds.head? = some '0' := by
      cases ds with
      | nil => exact absurd rfl hnonempty
      | cons c cs => rw [List.head?_cons, (List.cons.inj heq).1]
    obtain rfl := hlead hhead
    have htail : rest = tail := (List.cons.inj heq).2
    rw [htail]
  case h_2 cs hcs =>
    have hempty : ds.isEmpty = false := by simpa using hnonempty
    simp only [htake, hdrop, hempty, Bool.false_eq_true, if_false]

theorem fraction_append {behind : List Char} (hdigits : ∀ c ∈ behind, isDigit c = true)
    (hnonempty : behind ≠ []) (hrest : ∀ c ∈ rest.head?, isDigit c = false) :
    fraction ('.' :: (behind ++ rest)) = (behind, rest) := by
  have hempty : behind.isEmpty = false := by simpa using hnonempty
  simp only [fraction, takeWhile_digits hdigits hrest, dropWhile_digits hdigits hrest, hempty,
    Bool.false_eq_true, if_false]

theorem fraction_of_no_point (h : ∀ c ∈ rest.head?, c ≠ '.') : fraction rest = ([], rest) := by
  unfold fraction
  split
  case h_1 tail => exact absurd rfl (h '.' rfl)
  case h_2 => rfl

/-- The sign in front of an exponent. -/
def exponentSign (e : Int) : Char := if e < 0 then '-' else '+'

theorem scale_append {e : Int} {digits : List Char} (rest : List Char)
    (hdigits : ∀ c ∈ digits, isDigit c = true) (hnonempty : digits ≠ [])
    (hvalue : digitsValue digits = e.natAbs) (hrest : ∀ c ∈ rest.head?, isDigit c = false) :
    scale ('e' :: exponentSign e :: (digits ++ rest)) = (some e, rest) := by
  have hempty : digits.isEmpty = false := by simpa using hnonempty
  unfold scale exponentSign
  by_cases he : e < 0
  · simp only [if_pos he, decide_true, Bool.true_or, if_true,
      takeWhile_digits hdigits hrest, dropWhile_digits hdigits hrest, hempty, Bool.false_eq_true,
      if_false, hvalue, Prod.mk.injEq, Option.some.injEq, and_true]
    omega
  · simp only [if_neg he, decide_true, Bool.true_or, if_true,
      takeWhile_digits hdigits hrest, dropWhile_digits hdigits hrest, hempty, Bool.false_eq_true,
      if_false, hvalue, Prod.mk.injEq, Option.some.injEq, and_true]
    omega

theorem scale_of_no_exponent (h : ∀ c ∈ rest.head?, c ≠ 'e' ∧ c ≠ 'E') :
    scale rest = (none, rest) := by
  cases rest with
  | nil => rfl
  | cons c rest =>
      obtain ⟨hlower, hupper⟩ := h c rfl
      simp [scale, hlower, hupper]

/-! ### Numbers -/

/-- A number with its sign. -/
def signed (negative : Bool) (body : List Char) : List Char :=
  if negative then '-' :: body else body

/-- How a number without its sign is read. -/
def readMagnitude (negative : Bool) (start body : List Char) : Except Stop (Json × List Char) :=
  match wholePart? body with
  | none => .error ⟨.value, start⟩
  | some (whole, rest) =>
    let (behind, rest) := fraction rest
    let (exponent, rest) := scale rest
    if behind.isEmpty && exponent.isNone then
      if whole.length ≤ Text.maxDigits then
        let n : Int := digitsValue whole
        .ok (.int (if negative then -n else n), rest)
      else .error ⟨.longNumeral, start⟩
    else
      let coefficient := digitsValue (whole ++ behind)
      .ok (.float (.ofDecimal negative coefficient (exponent.getD 0 - behind.length)), rest)

/-- The sign in front of a number, and what stands behind it. -/
def takeSign (cs : List Char) : Bool × List Char :=
  match cs with
  | '-' :: body => (true, body)
  | _ => (false, cs)

theorem readNumber_eq (cs : List Char) :
    readNumber cs = readMagnitude (takeSign cs).1 cs (takeSign cs).2 := rfl

theorem takeSign_signed (negative : Bool) {body : List Char} (hbody : body.head? ≠ some '-') :
    takeSign (signed negative body) = (negative, body) := by
  cases negative with
  | true => rfl
  | false =>
      unfold takeSign signed
      split
      case h_1 heq => exact absurd (congrArg List.head? heq) hbody
      case h_2 => rfl

theorem readNumber_signed (negative : Bool) {body : List Char} (hbody : body.head? ≠ some '-') :
    readNumber (signed negative body) = readMagnitude negative (signed negative body) body := by
  rw [readNumber_eq, takeSign_signed negative hbody]

theorem signed_append (negative : Bool) (body rest : List Char) :
    signed negative body ++ rest = signed negative (body ++ rest) := by
  cases negative <;> rfl

/-- A whole part in front is no sign. -/
theorem Whole.head?_ne (h : Whole ds) (rest : List Char) : (ds ++ rest).head? ≠ some '-' := by
  obtain ⟨hdigits, hnonempty, -⟩ := h
  cases ds with
  | nil => exact absurd rfl hnonempty
  | cons c cs =>
      intro hminus
      have hc : c = '-' := Option.some.inj hminus
      have hdigit := hdigits c List.mem_cons_self
      rw [hc] at hdigit
      exact absurd hdigit (by decide)

/-- A number with a point or an exponent is a double. -/
theorem readNumber_float {whole rest₁ behind rest₂ : List Char} {exponent : Option Int}
    (negative : Bool) (hwhole : Whole whole) (hrest : ∀ c ∈ rest₁.head?, isDigit c = false)
    (hfraction : fraction rest₁ = (behind, rest₂)) (hscale : scale rest₂ = (exponent, rest))
    (hfloat : (behind.isEmpty && exponent.isNone) = false) :
    readNumber (signed negative whole ++ rest₁) =
      .ok (.float (.ofDecimal negative (digitsValue (whole ++ behind))
        (exponent.getD 0 - behind.length)), rest) := by
  rw [signed_append, readNumber_signed negative (hwhole.head?_ne rest₁), readMagnitude]
  simp only [wholePart?_append hwhole hrest, hfraction, hscale, hfloat, Bool.false_eq_true,
    if_false]

/-! ### Whole numbers -/

theorem decimal_toList (n : Int) :
    (Text.decimal n).toList = signed (n < 0) (Nat.toDigits 10 n.natAbs) := by
  unfold Text.decimal
  cases n with
  | ofNat k =>
      show (toString k).toList = _
      rw [Nat.toString_eq_ofList_toDigits, String.toList_ofList]
      rfl
  | negSucc k =>
      show ("-" ++ toString (k + 1)).toList = _
      rw [String.toList_append, Nat.toString_eq_ofList_toDigits, String.toList_ofList,
        String.toList_ofList, signed, decide_eq_true (Int.negSucc_lt_zero k)]
      rfl

/-- **A whole number that is written is read back**, if a numeral may have so many digits. -/
theorem readNumber_int {n : Int} (hshort : Double.digitCount n.natAbs ≤ Text.maxDigits)
    (hrest : Ends rest) : readNumber ((Text.decimal n).toList ++ rest) = .ok (.int n, rest) := by
  have hwhole := whole_toDigits n.natAbs
  have hfraction : fraction rest = ([], rest) := fraction_of_no_point fun c hc => (hrest c hc).2.1
  have hscale : scale rest = (none, rest) := scale_of_no_exponent fun c hc => (hrest c hc).2.2
  rw [decimal_toList, signed_append, readNumber_signed _ (hwhole.head?_ne rest), readMagnitude]
  simp only [wholePart?_append hwhole fun c hc => (hrest c hc).1, hfraction, hscale,
    List.isEmpty_nil, Option.isNone_none, Bool.and_self, if_true, digitsValue_eq,
    Nat.ofDigitChars_ten_toDigits]
  rw [if_pos (show (Nat.toDigits 10 n.natAbs).length ≤ Text.maxDigits from hshort)]
  by_cases hneg : n < 0
  · simp only [hneg, decide_true, if_true, Except.ok.injEq, Prod.mk.injEq, Json.int.injEq, and_true]
    omega
  · simp only [hneg, decide_false, Bool.false_eq_true, if_false, Except.ok.injEq, Prod.mk.injEq,
      Json.int.injEq, and_true]
    omega

/-! ### Doubles -/

theorem dropZeros_append (ds : List Char) :
    ∃ zeros, ds = Decimal.dropZeros ds ++ List.replicate zeros '0' := by
  refine ⟨(ds.reverse.takeWhile (· == '0')).length, ?_⟩
  have hzeros : ds.reverse.takeWhile (· == '0') =
      List.replicate (ds.reverse.takeWhile (· == '0')).length '0' := by
    refine List.eq_replicate_of_mem fun c hc => ?_
    simpa using List.mem_takeWhile_imp hc
  have hsplit := congrArg List.reverse
    (List.takeWhile_append_dropWhile (p := (· == '0')) (l := ds.reverse))
  rw [List.reverse_append, List.reverse_reverse, hzeros, List.reverse_replicate] at hsplit
  exact hsplit.symm

/-- The digits that are laid out: none of them is lost but zeros at the end. -/
structure Laid (d : Digits) (ds : List Char) : Prop where
  digits : ∀ c ∈ ds, isDigit c = true
  nonempty : ds ≠ []
  lead : ds.head? ≠ some '0'
  read : ∀ negative, Double.ofDecimal negative (digitsValue ds) (d.exponent - ds.length) =
    d.read negative

theorem laid_dropZeros {d : Digits} (h : d.Proper) :
    Laid d (Decimal.dropZeros (Decimal.padded d.count d.value)) := by
  obtain ⟨hcounted, hleast, hgreatest⟩ := h
  have hpos : 0 < d.value := Nat.lt_of_lt_of_le (by positivity) hleast
  have hlength : (Nat.toDigits 10 d.value).length = d.count := by
    have hcount := Double.digitCount_eq hleast (by rwa [Nat.sub_add_cancel hcounted])
    rw [Nat.sub_add_cancel hcounted] at hcount
    exact hcount
  have hpadded : Decimal.padded d.count d.value = Nat.toDigits 10 d.value := by
    simp [Decimal.padded, hlength]
  rw [hpadded]
  obtain ⟨zeros, hzeros⟩ := dropZeros_append (Nat.toDigits 10 d.value)
  generalize Decimal.dropZeros (Nat.toDigits 10 d.value) = ds at hzeros
  have hvalue : d.value = digitsValue ds * 10 ^ zeros := by
    rw [digitsValue_eq, Nat.mul_comm, ← Nat.ofDigitChars_replicate_zero, ← Nat.ofDigitChars_append,
      ← hzeros, Nat.ofDigitChars_ten_toDigits]
  have hnonempty : ds ≠ [] := by
    rintro rfl
    have hzero : d.value = 0 := by rw [hvalue, digitsValue_eq, Nat.ofDigitChars_nil, Nat.zero_mul]
    omega
  refine ⟨fun c hc => ?_, hnonempty, ?_, fun negative => ?_⟩
  · refine isDigit_of_mem_toDigits (n := d.value) ?_
    rw [hzeros]
    exact List.mem_append_left _ hc
  · have hhead := head?_toDigits hpos
    rw [hzeros, List.head?_append_of_ne_nil _ hnonempty] at hhead
    exact hhead
  · have hcount : (d.count : Int) = ds.length + zeros := by
      rw [← hlength, hzeros, List.length_append, List.length_replicate]
      push_cast
      rfl
    rw [Digits.read, hvalue, Double.ofDecimal_mul_pow, hcount]
    congr 1
    omega

/-- The digits of a number, filled with zeros in front, write it. -/
theorem digitsValue_padded (width n : Nat) : digitsValue (Decimal.padded width n) = n := by
  rw [digitsValue_eq, Decimal.padded, Nat.ofDigitChars_append, Nat.ofDigitChars_replicate_zero,
    Nat.mul_zero, Nat.ofDigitChars_ten_toDigits]

theorem isDigit_of_mem_padded {width n : Nat} {c : Char} (h : c ∈ Decimal.padded width n) :
    isDigit c = true := by
  rcases List.mem_append.mp h with hzero | hdigit
  · rw [(List.mem_replicate.mp hzero).2]
    rfl
  · exact isDigit_of_mem_toDigits hdigit

theorem padded_ne_nil (width n : Nat) : Decimal.padded width n ≠ [] :=
  List.append_ne_nil_of_right_ne_nil _ Nat.toDigits_ne_nil

theorem isDigit_of_mem_zeros {zeros : Nat} {c : Char} (h : c ∈ List.replicate zeros '0') :
    isDigit c = true := by
  rw [(List.mem_replicate.mp h).2]
  rfl

theorem not_isDigit_point (cs : List Char) : ∀ c ∈ ('.' :: cs).head?, isDigit c = false := by
  rintro c ⟨⟩
  rfl

theorem digitsValue_zeros_append (zeros : Nat) (ds : List Char) :
    digitsValue (List.replicate zeros '0' ++ ds) = digitsValue ds := by
  rw [digitsValue_eq, digitsValue_eq, Nat.ofDigitChars_append, Nat.ofDigitChars_replicate_zero,
    Nat.mul_zero]

theorem digitsValue_append_zeros (zeros : Nat) (ds : List Char) :
    digitsValue (ds ++ List.replicate zeros '0') = digitsValue ds * 10 ^ zeros := by
  rw [digitsValue_eq, digitsValue_eq, Nat.ofDigitChars_append, Nat.ofDigitChars_replicate_zero,
    Nat.mul_comm]

/-- A number with a point and no exponent. -/
theorem readNumber_pointed (negative : Bool) {whole behind : List Char} (hwhole : Whole whole)
    (hbehind : ∀ c ∈ behind, isDigit c = true) (hnonempty : behind ≠ []) (hrest : Ends rest) :
    readNumber (signed negative (whole ++ '.' :: behind) ++ rest) =
      .ok (.float (.ofDecimal negative (digitsValue (whole ++ behind)) (-behind.length)),
        rest) := by
  have hfraction := fraction_append hbehind hnonempty fun c hc => (hrest c hc).1
  have hscale : scale rest = (none, rest) := scale_of_no_exponent fun c hc => (hrest c hc).2.2
  have hfloat : (behind.isEmpty && (none : Option Int).isNone) = false := by simpa using hnonempty
  have hread := readNumber_float negative hwhole (not_isDigit_point _) hfraction hscale hfloat
  rw [signed_append] at hread ⊢
  rw [List.append_assoc]
  simpa using hread

/-- A number in scientific form, with a point or without one. -/
theorem readNumber_scientific (negative : Bool) {whole behind : List Char} {e : Int} (width : Nat)
    (hwhole : Whole whole) (hbehind : ∀ c ∈ behind, isDigit c = true) (hrest : Ends rest) :
    readNumber (signed negative (whole ++ (if behind = [] then [] else '.' :: behind) ++
        'e' :: exponentSign e :: Decimal.padded width e.natAbs) ++ rest) =
      .ok (.float (.ofDecimal negative (digitsValue (whole ++ behind)) (e - behind.length)),
        rest) := by
  have hscale := scale_append rest (fun c => isDigit_of_mem_padded)
    (padded_ne_nil width e.natAbs) (digitsValue_padded width e.natAbs) fun c hc => (hrest c hc).1
  have hfloat : (behind.isEmpty && (some e).isNone) = false := by simp
  have hletter : ∀ cs : List Char, ∀ c ∈ ('e' :: cs).head?, isDigit c = false ∧ c ≠ '.' := by
    rintro cs c ⟨⟩
    exact ⟨rfl, by decide⟩
  rw [signed_append]
  by_cases hempty : behind = []
  · subst hempty
    have hread := readNumber_float negative hwhole (fun c hc => (hletter _ c hc).1)
      (fraction_of_no_point fun c hc => (hletter _ c hc).2) hscale hfloat
    rw [signed_append] at hread
    simpa using hread
  · have hread := readNumber_float negative hwhole (not_isDigit_point _)
      (fraction_append hbehind hempty fun c hc => (hletter _ c hc).1) hscale hfloat
    rw [signed_append] at hread
    simpa [hempty] using hread

/-- The front of digits that do not start with a zero. -/
theorem whole_of_lead {front : List Char} (hdigits : ∀ c ∈ front, isDigit c = true)
    (hnonempty : front ≠ []) (hlead : front.head? ≠ some '0') : Whole front :=
  ⟨hdigits, hnonempty, fun hzero => absurd hzero hlead⟩

variable {d : Digits}

/-- Digits below the point are read back. -/
theorem Laid.read_below (h : Laid d ds) (negative : Bool) (hrest : Ends rest)
    (hexponent : d.exponent ≤ 0) :
    readNumber (signed negative ('0' :: '.' :: List.replicate (-d.exponent).toNat '0' ++ ds) ++
      rest) = .ok (.float (d.read negative), rest) := by
  have hbehind : ∀ c ∈ List.replicate (-d.exponent).toNat '0' ++ ds, isDigit c = true := by
    intro c hc
    exact (List.mem_append.mp hc).elim isDigit_of_mem_zeros (h.digits c)
  have hread := readNumber_pointed negative whole_zero hbehind
    (List.append_ne_nil_of_right_ne_nil _ h.nonempty) hrest
  have hvalue : digitsValue (['0'] ++ (List.replicate (-d.exponent).toNat '0' ++ ds)) =
      digitsValue ds := by
    rw [← digitsValue_zeros_append ((-d.exponent).toNat + 1) ds, List.replicate_succ]
    rfl
  have hplaces : (-((List.replicate (-d.exponent).toNat '0' ++ ds).length : Int)) =
      d.exponent - ds.length := by
    rw [List.length_append, List.length_replicate]
    omega
  rw [hvalue, hplaces, h.read] at hread
  exact hread

/-- Digits around the point are read back. -/
theorem Laid.read_around (h : Laid d ds) (negative : Bool) (hrest : Ends rest)
    (hexponent : 0 < d.exponent) :
    readNumber (signed negative (ds.take d.exponent.toNat ++
        List.replicate (d.exponent.toNat - ds.length) '0' ++
        '.' :: (if (ds.drop d.exponent.toNat).isEmpty then ['0'] else ds.drop d.exponent.toNat)) ++
      rest) = .ok (.float (d.read negative), rest) := by
  obtain ⟨places, hplaces⟩ := Int.eq_ofNat_of_zero_le hexponent.le
  rw [← h.read negative, hplaces, Int.toNat_natCast]
  have hpos : 0 < places := by omega
  obtain ⟨c, cs, rfl⟩ := List.exists_cons_of_ne_nil h.nonempty
  have hwhole :
      Whole ((c :: cs).take places ++ List.replicate (places - (c :: cs).length) '0') := by
    obtain ⟨n, rfl⟩ := Nat.exists_eq_succ_of_ne_zero hpos.ne'
    refine whole_of_lead (fun x hx => ?_) (by simp) h.lead
    exact (List.mem_append.mp hx).elim (fun hx => h.digits x (List.mem_of_mem_take hx))
      isDigit_of_mem_zeros
  rcases Nat.lt_or_ge places (c :: cs).length with hinside | hbehind
  · have hnonempty : (c :: cs).drop places ≠ [] := by
      rw [Ne, List.drop_eq_nil_iff]
      omega
    have hnone : places - (c :: cs).length = 0 := by omega
    rw [if_neg (by simpa using hnonempty)]
    have hread := readNumber_pointed negative hwhole
      (fun x hx => h.digits x (List.mem_of_mem_drop hx)) hnonempty hrest
    rw [hread, hnone, List.replicate_zero, List.append_nil, List.take_append_drop, List.length_drop]
    congr 4
    omega
  · -- The digits end before the point: zeros are filled in, and one is added behind it.
    have hall : (c :: cs).take places = c :: cs := List.take_of_length_le hbehind
    have hdrop : (c :: cs).drop places = [] := List.drop_eq_nil_of_le hbehind
    rw [hdrop, if_pos List.isEmpty_nil]
    have hread := readNumber_pointed negative hwhole isDigit_zero (by simp) hrest
    have hvalue : (c :: cs).take places ++ List.replicate (places - (c :: cs).length) '0' ++ ['0'] =
        c :: cs ++ List.replicate (places - (c :: cs).length + 1) '0' := by
      rw [hall, List.append_assoc, List.replicate_succ']
    rw [hread, hvalue, digitsValue_append_zeros, Double.ofDecimal_mul_pow]
    congr 4
    simp only [List.length_singleton]
    omega

/-- Digits in scientific form are read back. -/
theorem Laid.read_scientific (h : Laid d ds) (negative : Bool) (hrest : Ends rest) (width : Nat) :
    readNumber (signed negative ((if 1 < ds.length then ds.take 1 ++ '.' :: ds.drop 1 else ds) ++
        'e' :: (if d.exponent - 1 < 0 then '-' else '+') ::
          Decimal.padded width (d.exponent - 1).natAbs) ++ rest) =
      .ok (.float (d.read negative), rest) := by
  obtain ⟨c, cs, rfl⟩ := List.exists_cons_of_ne_nil h.nonempty
  have hwhole : Whole [c] := by
    refine whole_of_lead (fun x hx => ?_) (by simp) h.lead
    rw [List.mem_singleton.mp hx]
    exact h.digits c List.mem_cons_self
  have hread := readNumber_scientific (e := d.exponent - 1) negative width hwhole
    (fun x hx => h.digits x (List.mem_cons_of_mem c hx)) hrest
  have hform : (if 1 < (c :: cs).length then (c :: cs).take 1 ++ '.' :: (c :: cs).drop 1 else
      c :: cs) = [c] ++ if cs = [] then [] else '.' :: cs := by
    cases cs <;> simp
  have hplaces : d.exponent - 1 - (cs.length : Int) = d.exponent - (c :: cs).length := by
    rw [List.length_cons]
    omega
  rw [hform, ← h.read negative, ← hplaces]
  exact hread

/-- Digits that are laid out are read back. -/
theorem readNumber_digits (h : d.Proper) (negative : Bool) (hrest : Ends rest) :
    readNumber (signed negative (Layout.document.digits d) ++ rest) =
      .ok (.float (d.read negative), rest) := by
  have hds := laid_dropZeros h
  unfold Layout.digits
  simp only
  generalize Decimal.dropZeros (Decimal.padded d.count d.value) = ds at hds
  split
  case isTrue hpositional =>
    split
    case isTrue hbelow => exact hds.read_below negative hrest hbelow
    case isFalse habove => exact hds.read_around negative hrest (by omega)
  case isFalse hscientific => exact hds.read_scientific negative hrest 2

/-- **A double that is written is read back.** -/
theorem readNumber_double (x : Decimal.Finite) (hrest : Ends rest) :
    readNumber ((Layout.document.text (.finite x)).toList ++ rest) =
      .ok (.float (.finite x), rest) := by
  rw [Layout.text, String.toList_ofList]
  by_cases hzero : x.mantissa = 0
  · have hread := readNumber_pointed x.negative whole_zero isDigit_zero (by simp) hrest
    have hexponent : x.exponent = -1074 := by
      obtain ⟨-, -, -, hform⟩ := x.canonical
      omega
    have hx : Double.zero x.negative = .finite x := by
      cases x with
      | mk negative mantissa exponent canonical =>
          simp only at hzero hexponent
          subst hzero hexponent
          rfl
    rw [if_pos hzero, ← hx]
    exact hread
  · obtain ⟨hback, hproper⟩ := Decimal.shortest_readsBack hzero
    rw [if_neg hzero, ← of_decide_eq_true hback]
    exact readNumber_digits hproper x.negative hrest

end Questionnaire.Json
