/-
What a text gives can be written again.

Two things could stand in the way.  A name could come twice in an object, but the value
that comes later takes the place of the earlier one.  And a whole number could be too long,
but such a numeral is refused.  So every value that was read is writable, at any depth of
nesting, and the induction is on the steps that reading has left.
-/
import Questionnaire.Proofs.Json.RoundTrip

namespace Questionnaire

namespace Json

open Decimal (Double)

variable {cs : List Char}

/-! ### Numbers -/

/-- A whole part has a digit, and nothing but digits. -/
theorem wholePart?_digits {ds rest : List Char} (h : wholePart? cs = some (ds, rest)) :
    0 < ds.length ∧ ∀ c ∈ ds, isDigit c = true := by
  unfold wholePart? at h
  split at h
  case h_1 =>
    obtain ⟨rfl, -⟩ := Prod.mk.inj (Option.some.inj h)
    exact ⟨Nat.one_pos, isDigit_zero⟩
  case h_2 =>
    simp only [Option.ite_none_left_eq_some, Option.some.injEq, Prod.mk.injEq] at h
    obtain ⟨hnonempty, rfl, -⟩ := h
    refine ⟨List.length_pos_of_ne_nil fun hnil => hnonempty (by rw [hnil]; rfl), ?_⟩
    intro c hc
    exact List.all_eq_true.mp List.all_takeWhile c hc

/-- A numeral that is not too long gives a number that is not too long. -/
theorem digitCount_digitsValue {ds : List Char} (hpos : 0 < ds.length)
    (hds : ∀ c ∈ ds, isDigit c = true) : Double.digitCount (digitsValue ds) ≤ ds.length := by
  rw [Double.digitCount_le_iff hpos, digitsValue_eq]
  exact ofDigitChars_lt hds

theorem writable_float (x : Double) : Writable (.float x) := ⟨trivial, trivial⟩

theorem writable_readNumber {read : Json × List Char} (h : readNumber cs = .ok read) :
    read.1.Writable := by
  rw [readNumber_eq] at h
  unfold readMagnitude at h
  split at h
  case h_1 => cases h
  case h_2 whole rest hwhole =>
    obtain ⟨hpos, hdigits⟩ := wholePart?_digits hwhole
    dsimp only at h
    split at h
    case isTrue =>
      split at h
      case isTrue hlength =>
        obtain rfl := Except.ok.inj h
        have hcount := Nat.le_trans (digitCount_digitsValue hpos hdigits) hlength
        refine ⟨trivial, ?_⟩
        show Double.digitCount (Int.natAbs _) ≤ Text.maxDigits
        cases (takeSign cs).1 <;> simpa using hcount
      case isFalse => cases h
    case isFalse =>
      obtain rfl := Except.ok.inj h
      exact writable_float _

theorem writable_readScalar {read : Json × List Char} (h : readScalar cs = .ok read) :
    read.1.Writable := by
  unfold readScalar at h
  split at h
  case h_7 => exact writable_readNumber h
  all_goals
    obtain rfl := Except.ok.inj h
    exact ⟨trivial, trivial⟩

/-! ### Values -/

theorem map_eq_ok {ε α β : Type} {x : Except ε α} {f : α → β} {b : β} (h : x.map f = .ok b) :
    ∃ a, x = .ok a ∧ f a = b := by
  cases x with
  | error e => cases h
  | ok a => exact ⟨a, rfl, Except.ok.inj h⟩

theorem bind_eq_ok {ε α β : Type} {x : Except ε α} {f : α → Except ε β} {b : β}
    (h : x >>= f = .ok b) : ∃ a, x = .ok a ∧ f a = .ok b := by
  cases x with
  | error e => cases h
  | ok a => exact ⟨a, rfl, h⟩

/-- The members of an object that is being read are writable so far. -/
def MembersWritable (ms : Entries Json) : Prop :=
  (ms.map Prod.fst).Nodup ∧ ∀ m ∈ ms, m.2.Writable

theorem MembersWritable.set {ms : Entries Json} (h : MembersWritable ms) (name : String) {v : Json}
    (hv : v.Writable) : MembersWritable (ms.set name v) := by
  refine ⟨Entries.nodup_set h.1 name v, fun m hm => ?_⟩
  rcases Entries.mem_set hm with heq | hold
  · rw [heq]
    exact hv
  · exact h.2 m hold

mutual

theorem writable_readValue (fuel : Nat) (cs : List Char) {read : Json × List Char}
    (h : readValue fuel cs = .ok read) : read.1.Writable := by
  cases fuel with
  | zero => cases h
  | succ fuel =>
      unfold readValue at h
      split at h
      case h_1 =>
        obtain ⟨s, -, rfl⟩ := map_eq_ok h
        exact writable_str _
      case h_2 =>
        split at h
        case h_1 =>
          obtain rfl := Except.ok.inj h
          exact writable_arr.mpr (by simp)
        case h_2 =>
          obtain ⟨items, hitems, rfl⟩ := map_eq_ok h
          exact writable_arr.mpr (writable_readItems fuel _ hitems)
      case h_3 =>
        split at h
        case h_1 =>
          obtain rfl := Except.ok.inj h
          exact writable_obj.mpr ⟨List.nodup_nil, by simp⟩
        case h_2 =>
          obtain ⟨ms, hms, rfl⟩ := map_eq_ok h
          exact writable_obj.mpr (writable_readMembers fuel [] _ ⟨List.nodup_nil, by simp⟩ hms)
      case h_4 => exact writable_readScalar h

theorem writable_readItems (fuel : Nat) (cs : List Char) {read : List Json × List Char}
    (h : readItems fuel cs = .ok read) : ∀ v ∈ read.1, v.Writable := by
  cases fuel with
  | zero => cases h
  | succ fuel =>
      unfold readItems at h
      obtain ⟨first, hfirst, h⟩ := bind_eq_ok h
      have hv := writable_readValue fuel cs hfirst
      dsimp only at h
      split at h
      case h_1 =>
        obtain rfl := Except.ok.inj h
        exact List.forall_mem_singleton.mpr hv
      case h_2 =>
        obtain ⟨others, hothers, h⟩ := bind_eq_ok h
        obtain rfl := Except.ok.inj h
        exact List.forall_mem_cons.mpr ⟨hv, writable_readItems fuel _ hothers⟩
      case h_3 => cases h

theorem writable_readMembers (fuel : Nat) (ms : Entries Json) (cs : List Char)
    {read : Entries Json × List Char} (hms : MembersWritable ms)
    (h : readMembers fuel ms cs = .ok read) : MembersWritable read.1 := by
  cases fuel with
  | zero => cases h
  | succ fuel =>
      unfold readMembers at h
      split at h
      case h_2 => cases h
      case h_1 =>
        obtain ⟨name, -, h⟩ := bind_eq_ok h
        dsimp only at h
        split at h
        case h_2 => cases h
        case h_1 =>
          obtain ⟨v, hv, h⟩ := bind_eq_ok h
          have hset := hms.set (String.ofList name.1) (writable_readValue fuel _ hv)
          split at h
          case h_1 =>
            obtain rfl := Except.ok.inj h
            exact hset
          case h_2 => exact writable_readMembers fuel _ _ hset h
          case h_3 => cases h

end

/-- **What a text gives can be written again.** -/
theorem writable_parse {text : String} {v : Json} (h : parse text = .ok v) : v.Writable := by
  have hchars : parseChars text.toList = .ok v := by
    unfold parse at h
    cases hread : parseChars text.toList with
    | error stop =>
        rw [hread] at h
        cases h
    | ok w =>
        rw [hread] at h
        exact congrArg Except.ok (Except.ok.inj h)
  unfold parseChars at hchars
  split at hchars
  case isTrue => cases hchars
  case isFalse =>
    obtain ⟨read, hread, hrest⟩ := bind_eq_ok hchars
    dsimp only at hrest
    split at hrest
    case h_1 =>
      obtain rfl := Except.ok.inj hrest
      exact writable_readValue _ _ hread
    case h_2 => cases hrest

end Json

end Questionnaire
