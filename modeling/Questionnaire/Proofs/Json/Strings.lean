/-
Strings that were written are read back.

Each character is written on its own, as itself or as an escape, and reading takes one
such piece off the front: `readString_escapeChar`.  Beyond the sixteen bits of one
code unit two escapes write one character.
-/
import Questionnaire.Json.Reader
import Questionnaire.Json.Writer

namespace Questionnaire.Json

/-! ### Hexadecimal digits -/

theorem hexDigit?_digitChar : ∀ n < 16, hexDigit? n.digitChar = some n := by decide

theorem hex_eq (width n : Nat) :
    Text.hex width n =
      List.replicate (width - (Nat.toDigits 16 n).length) '0' ++ Nat.toDigits 16 n := rfl

/-- The last of the digits that a number is filled up to. -/
theorem hex_succ (width n : Nat) :
    Text.hex (width + 2) n = Text.hex (width + 1) (n / 16) ++ [(n % 16).digitChar] := by
  simp only [hex_eq]
  rcases Nat.lt_or_ge n 16 with hsmall | hlarge
  · rw [Nat.toDigits_of_lt_base hsmall, Nat.div_eq_of_lt hsmall, Nat.toDigits_zero,
      Nat.mod_eq_of_lt hsmall]
    show List.replicate (width + 1) '0' ++ _ = List.replicate width '0' ++ ['0'] ++ _
    rw [List.replicate_succ']
  · rw [Nat.toDigits_of_base_le (by decide) hlarge, List.length_append, List.length_singleton,
      ← List.append_assoc, Nat.add_sub_add_right (width + 1) 1]

/-- Four hexadecimal digits write a number of sixteen bits. -/
theorem hex_four {n : Nat} (hn : n < 65536) :
    Text.hex 4 n = [(n / 4096).digitChar, (n / 256 % 16).digitChar, (n / 16 % 16).digitChar,
      (n % 16).digitChar] := by
  have hfirst : Text.hex 1 (n / 16 / 16 / 16) = [(n / 16 / 16 / 16).digitChar] := by
    rw [Text.hex, Nat.toDigits_of_lt_base (by omega)]
    rfl
  rw [hex_succ 2, hex_succ 1, hex_succ 0, hfirst]
  simp only [Nat.div_div_eq_div_mul]
  rfl

theorem hex4?_hex {n : Nat} (hn : n < 65536) :
    hex4? (n / 4096).digitChar (n / 256 % 16).digitChar (n / 16 % 16).digitChar (n % 16).digitChar =
      some n := by
  unfold hex4?
  rw [hexDigit?_digitChar _ (by omega), hexDigit?_digitChar _ (by omega),
    hexDigit?_digitChar _ (by omega), hexDigit?_digitChar _ (by omega)]
  simp only [Option.bind_eq_bind, Option.bind_some, Option.pure_def, Option.some.injEq]
  omega

/-! ### One character -/

variable {opening rest : List Char} {c : Char}

/-- A code unit that is no first half of a pair is one character. -/
theorem readString_unitEscape {n : Nat} (hn : n < 65536) (hwhole : isHighSurrogate n = false)
    (opening : List Char) (e : Char) (rest : List Char) :
    readString opening (unitEscape n ++ e :: rest) =
      push (unitChar n) (readString opening (e :: rest)) := by
  rw [unitEscape, hex_four hn]
  simp only [List.cons_append, List.nil_append]
  rw [readString]
  simp only [hex4?_hex hn]
  split
  case h_1 => simp [hwhole]
  case h_2 => rfl

/-- Two code units that are the halves of a pair are one character. -/
theorem readString_pair {high low : Nat} (hhigh : isHighSurrogate high = true)
    (hlow : isLowSurrogate low = true) (opening : List Char) (e : Char) (rest : List Char) :
    readString opening (unitEscape high ++ unitEscape low ++ e :: rest) =
      push (pairChar high low) (readString opening (e :: rest)) := by
  have hhigh_lt : high < 65536 := by
    simp only [isHighSurrogate, Bool.and_eq_true, decide_eq_true_eq] at hhigh
    omega
  have hlow_lt : low < 65536 := by
    simp only [isLowSurrogate, Bool.and_eq_true, decide_eq_true_eq] at hlow
    omega
  rw [unitEscape, unitEscape, hex_four hhigh_lt, hex_four hlow_lt]
  simp only [List.cons_append, List.nil_append]
  rw [readString]
  simp only [hex4?_hex hhigh_lt, hex4?_hex hlow_lt, hhigh, hlow, if_true]

/-- A character that needs no escape is read as it is. -/
theorem readString_plain (hquote : c ≠ '"') (hslash : c ≠ '\\') (hcontrol : ¬ c.toNat < 0x20) :
    readString opening (c :: rest) = push c (readString opening rest) := by
  rw [readString]
  · rw [if_neg hcontrol]
  all_goals simp_all

theorem readString_short {e x : Char} (hx : shortEscape? e = some x) :
    readString opening ('\\' :: e :: rest) = push x (readString opening rest) := by
  have hunicode : e ≠ 'u' := by
    rintro rfl
    simp [shortEscape?] at hx
  rw [readString]
  · simp only [hx]
  all_goals simp_all

theorem toNat_valid (c : Char) :
    c.toNat < 0xD800 ∨ 0xDFFF < c.toNat ∧ c.toNat < 0x110000 := c.valid

theorem not_isHighSurrogate (c : Char) : isHighSurrogate c.toNat = false := by
  have hvalid := toNat_valid c
  simp only [isHighSurrogate, Bool.and_eq_false_iff, decide_eq_false_iff_not]
  omega

theorem unitChar_toNat (c : Char) : unitChar c.toNat = c := by
  have hvalid := toNat_valid c
  have hlow : isLowSurrogate c.toNat = false := by
    simp only [isLowSurrogate, Bool.and_eq_false_iff, decide_eq_false_iff_not]
    omega
  rw [unitChar, not_isHighSurrogate, hlow]
  simp [Char.ofNat_toNat]

/-- The ways to write a character: by a short escape, by its number, by its two halves,
or as it is. -/
theorem escapeChar_cases (ascii : Bool) (c : Char) :
    (∃ e, shortEscape? e = some c ∧ escapeChar ascii c = ['\\', e]) ∨
      (c.toNat ≤ 0xFFFF ∧ escapeChar ascii c = unitEscape c.toNat) ∨
      (0xFFFF < c.toNat ∧ escapeChar ascii c = unitEscape (0xD800 + (c.toNat - 0x10000) / 0x400) ++
        unitEscape (0xDC00 + (c.toNat - 0x10000) % 0x400)) ∨
      (c ≠ '"' ∧ c ≠ '\\' ∧ 0x20 ≤ c.toNat ∧ escapeChar ascii c = [c]) := by
  by_cases hquote : c = '"'
  · subst hquote
    exact .inl ⟨'"', rfl, rfl⟩
  by_cases hslash : c = '\\'
  · subst hslash
    exact .inl ⟨'\\', rfl, rfl⟩
  by_cases hnewline : c = '\n'
  · subst hnewline
    exact .inl ⟨'n', rfl, rfl⟩
  by_cases hreturn : c = '\r'
  · subst hreturn
    exact .inl ⟨'r', rfl, rfl⟩
  by_cases htab : c = '\t'
  · subst htab
    exact .inl ⟨'t', rfl, rfl⟩
  by_cases hback : c = '\x08'
  · subst hback
    exact .inl ⟨'b', rfl, rfl⟩
  by_cases hfeed : c = '\x0c'
  · subst hfeed
    exact .inl ⟨'f', rfl, rfl⟩
  rw [escapeChar, if_neg hquote, if_neg hslash, if_neg hnewline, if_neg hreturn, if_neg htab,
    if_neg hback, if_neg hfeed]
  refine .inr ?_
  by_cases hcontrol : c.toNat < 0x20
  · rw [if_pos hcontrol]
    exact .inl ⟨by omega, rfl⟩
  rw [if_neg hcontrol]
  by_cases hwide : (ascii && decide (0x7F ≤ c.toNat)) = true
  · rw [if_pos hwide]
    by_cases hlarge : c.toNat ≤ 0xFFFF
    · rw [if_pos hlarge]
      exact .inl ⟨hlarge, rfl⟩
    · rw [if_neg hlarge]
      exact .inr (.inl ⟨by omega, rfl⟩)
  · rw [if_neg hwide]
    exact .inr (.inr ⟨hquote, hslash, by omega, rfl⟩)

/-- What was written for a character is read as that character, whatever follows it. -/
theorem readString_escapeChar (ascii : Bool) (opening : List Char) (c e : Char)
    (rest : List Char) :
    readString opening (escapeChar ascii c ++ e :: rest) =
      push c (readString opening (e :: rest)) := by
  have hvalid := toNat_valid c
  obtain ⟨x, hshort, heq⟩ | ⟨hunit, heq⟩ | ⟨hpair, heq⟩ | ⟨hquote, hslash, hcontrol, heq⟩ :=
    escapeChar_cases ascii c
  · rw [heq]
    exact readString_short hshort
  · rw [heq, readString_unitEscape (by omega) (not_isHighSurrogate c), unitChar_toNat]
  · have hvalue : 0x10000 + (0xD800 + (c.toNat - 0x10000) / 0x400 - 0xD800) * 0x400 +
        (0xDC00 + (c.toNat - 0x10000) % 0x400 - 0xDC00) = c.toNat := by omega
    have hwhole : pairChar (0xD800 + (c.toNat - 0x10000) / 0x400)
        (0xDC00 + (c.toNat - 0x10000) % 0x400) = c := by
      rw [pairChar, hvalue, Char.ofNat_toNat]
    rw [heq, readString_pair, hwhole]
    · simp only [isHighSurrogate, Bool.and_eq_true, decide_eq_true_eq]
      omega
    · simp only [isLowSurrogate, Bool.and_eq_true, decide_eq_true_eq]
      omega
  · rw [heq]
    exact readString_plain hquote hslash (by omega)

/-! ### Whole strings -/

/-- A written string begins with its quote and ends with the other one. -/
theorem writeString_append (ascii : Bool) (s : String) (rest : List Char) :
    writeString ascii s ++ rest = '"' :: (s.toList.flatMap (escapeChar ascii) ++ '"' :: rest) := by
  simp [writeString]

/-- **A string that is written is read back**, with what follows it left over. -/
theorem readString_escaped (ascii : Bool) (opening cs rest : List Char) :
    readString opening (cs.flatMap (escapeChar ascii) ++ '"' :: rest) = .ok (cs, rest) := by
  induction cs with
  | nil => rw [List.flatMap_nil, List.nil_append, readString]
  | cons c cs ih =>
      obtain ⟨e, tail, hnext⟩ :
          ∃ e tail, cs.flatMap (escapeChar ascii) ++ '"' :: rest = e :: tail :=
        List.exists_cons_of_ne_nil (by simp)
      rw [List.flatMap_cons, List.append_assoc, hnext, readString_escapeChar, ← hnext, ih]
      rfl

end Questionnaire.Json
