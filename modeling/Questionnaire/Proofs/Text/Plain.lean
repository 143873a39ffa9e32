/-
Text without anything to read into it.

A text is taken apart at a character only where that stands, and bytes below 128 are characters of
their own.  So a text of such characters, `Plain`, is the same with percent signs and without, and
is its own first part wherever it is cut.
-/
import Mathlib.Data.List.TakeWhile
import Questionnaire.Text.Percent
import Questionnaire.Text.Split

namespace Questionnaire.Text

variable {c : Char} {cs ds : List Char}

/-- What holds of the characters of a text can be computed along the text: deciding it for every
character there is would not end soon. -/
theorem forall_of_all {P : Char → Prop} [DecidablePred P] (h : cs.all (P ·) = true) :
    ∀ c ∈ cs, P c :=
  fun c hc => of_decide_eq_true (List.all_eq_true.mp h c hc)

/-! ### Taking apart -/

theorem splitFirst_of_notMem (h : c ∉ cs) : splitFirst c cs = (cs, none) := by
  have hdrop : cs.dropWhile (· ≠ c) = [] :=
    List.dropWhile_eq_nil_iff.mpr fun d hd => decide_eq_true fun heq => h (heq ▸ hd)
  rw [splitFirst, hdrop]

theorem splitFirst_append (h : c ∉ cs) (ds : List Char) :
    splitFirst c (cs ++ c :: ds) = (cs, some ds) := by
  have hall : ∀ d ∈ cs, decide (d ≠ c) = true :=
    fun d hd => decide_eq_true fun heq => h (heq ▸ hd)
  rw [splitFirst, List.dropWhile_append_of_pos hall, List.dropWhile_cons_of_neg (by simp)]
  simp only [List.takeWhile_append_of_pos hall]
  rw [List.takeWhile_cons_of_neg (by simp), List.append_nil]

theorem splitAll_ne_nil (c : Char) (cs : List Char) : splitAll c cs ≠ [] := by
  cases cs with
  | nil => exact List.cons_ne_nil _ _
  | cons d cs =>
      rw [splitAll]
      split
      case isTrue => exact List.cons_ne_nil _ _
      case isFalse => split <;> exact List.cons_ne_nil _ _

theorem splitAll_of_notMem (h : c ∉ cs) : splitAll c cs = [cs] := by
  induction cs with
  | nil => rfl
  | cons d cs ih =>
      rw [List.mem_cons, not_or] at h
      rw [splitAll, if_neg (Ne.symm h.1), ih h.2]

/-- A text is cut at every separator, so it can be cut at one of them first. -/
theorem splitAll_join (cs ds : List Char) :
    splitAll c (cs ++ c :: ds) = splitAll c cs ++ splitAll c ds := by
  induction cs with
  | nil =>
      show splitAll c (c :: ds) = [] :: splitAll c ds
      rw [splitAll, if_pos rfl]
  | cons d cs ih =>
      rw [List.cons_append, splitAll, splitAll, ih]
      split
      case isTrue => rfl
      case isFalse =>
        cases hparts : splitAll c cs with
        | nil => exact absurd hparts (splitAll_ne_nil c cs)
        | cons part parts => rfl

theorem splitAll_append (h : c ∉ cs) (ds : List Char) :
    splitAll c (cs ++ c :: ds) = cs :: splitAll c ds := by
  rw [splitAll_join, splitAll_of_notMem h, List.singleton_append]

/-- What stands in front belongs to the first part. -/
theorem splitAll_front (h : c ∉ cs) (ds : List Char) :
    ∃ part parts, splitAll c ds = part :: parts ∧
      splitAll c (cs ++ ds) = (cs ++ part) :: parts := by
  obtain ⟨part, parts, hparts⟩ := List.exists_cons_of_ne_nil (splitAll_ne_nil c ds)
  refine ⟨part, parts, hparts, ?_⟩
  induction cs with
  | nil => exact hparts
  | cons d cs ih =>
      rw [List.mem_cons, not_or] at h
      rw [List.cons_append, splitAll, if_neg (Ne.symm h.1), ih h.2]
      rfl

theorem mem_of_mem_splitAll {part : List Char} {d : Char} (hpart : part ∈ splitAll c cs)
    (hd : d ∈ part) : d ∈ cs := by
  induction cs generalizing part with
  | nil => rwa [← List.mem_singleton.mp hpart]
  | cons e cs ih =>
      rw [splitAll] at hpart
      split at hpart
      case isTrue =>
        rcases List.mem_cons.mp hpart with rfl | hrest
        · cases hd
        · exact List.mem_cons_of_mem e (ih hrest hd)
      case isFalse =>
        obtain ⟨first, parts, hparts⟩ := List.exists_cons_of_ne_nil (splitAll_ne_nil c cs)
        rw [hparts] at hpart ih
        rcases List.mem_cons.mp hpart with rfl | hrest
        · rcases List.mem_cons.mp hd with rfl | hfirst
          · exact List.mem_cons_self
          · exact List.mem_cons_of_mem e (ih List.mem_cons_self hfirst)
        · exact List.mem_cons_of_mem e (ih (List.mem_cons_of_mem first hrest) hd)

theorem splitLast_of_notMem (h : c ∉ cs) : splitLast c cs = (none, cs) := by
  rw [splitLast, splitFirst_of_notMem (mt List.mem_reverse.mp h)]
  simp

theorem splitLast_append (cs : List Char) (h : c ∉ ds) :
    splitLast c (cs ++ c :: ds) = (some cs, ds) := by
  rw [splitLast, List.reverse_append, List.reverse_cons, List.append_assoc, List.singleton_append,
    splitFirst_append (mt List.mem_reverse.mp h)]
  simp

/-- A text is the parts between separators, if none of them stands in a part. -/
theorem parts_intercalate {parts : List (List Char)} (hne : parts ≠ [])
    (h : ∀ part ∈ parts, c ∉ part) :
    Text.parts c (String.ofList ([c].intercalate parts)) = parts.map String.ofList := by
  rw [Text.parts, String.toList_ofList]
  refine congrArg (List.map String.ofList) ?_
  induction parts with
  | nil => exact absurd rfl hne
  | cons part parts ih =>
      obtain ⟨hpart, hparts⟩ := List.forall_mem_cons.mp h
      cases parts with
      | nil => simpa [List.intercalate] using splitAll_of_notMem hpart
      | cons next rest =>
          rw [List.intercalate_cons_cons, List.append_assoc, List.singleton_append,
            splitAll_append hpart, ih (List.cons_ne_nil _ _) hparts]

/-! ### Bytes -/

theorem toList_loop (bytes : ByteArray) (i : Nat) (front : List UInt8) :
    ByteArray.toList.loop bytes i front = front.reverse ++ bytes.data.toList.drop i := by
  induction h : bytes.size - i generalizing i front with
  | zero =>
      rw [ByteArray.toList.loop, if_neg (by omega), List.drop_eq_nil_of_le, List.append_nil]
      rw [Array.length_toList]
      show bytes.size ≤ i
      omega
  | succ n ih =>
      have hi : i < bytes.data.toList.length := by
        rw [Array.length_toList]
        show i < bytes.size
        omega
      rw [ByteArray.toList.loop, if_pos (by omega), ih (i + 1) _ (by omega),
        List.drop_eq_getElem_cons hi, List.reverse_cons, List.append_assoc]
      have hget : bytes.get! i = bytes.data.toList[i] := by
        rw [Array.getElem_toList]
        exact getElem!_pos bytes.data i (by simpa using hi)
      rw [hget]
      rfl

theorem toBytes_ofList (cs : List Char) :
    toBytes (String.ofList cs) = (cs.flatMap String.utf8EncodeChar).map UInt8.toNat := by
  rw [toBytes, String.toUTF8, String.toByteArray_ofList, List.utf8Encode, ByteArray.toList,
    toList_loop, List.data_toByteArray]
  rfl

/-- A character below 128 is one byte. -/
theorem utf8EncodeChar_of_lt (h : c.toNat < 0x80) :
    (String.utf8EncodeChar c).map UInt8.toNat = [c.toNat] := by
  have hsize : c.utf8Size = 1 := by
    rw [Char.utf8Size_eq_one_iff, UInt32.le_iff_toNat_le]
    show c.toNat ≤ 127
    omega
  rw [String.utf8EncodeChar_eq_singleton hsize, List.map_singleton]
  show [c.val.toUInt8.toNat] = [c.val.toNat]
  rw [UInt32.toNat_toUInt8, Nat.mod_eq_of_lt]
  show c.toNat < 2 ^ 8
  omega

/-- The characters have one byte each, and none of them is a percent sign. -/
def Plain (cs : List Char) : Prop := ∀ c ∈ cs, c.toNat < 0x80 ∧ c ≠ '%'

theorem percentBytes_of_plain (h : Plain cs) : percentBytes cs = cs.map Char.toNat := by
  induction cs with
  | nil => rfl
  | cons c cs ih =>
      obtain ⟨⟨hbelow, hpercent⟩, hcs⟩ := List.forall_mem_cons.mp h
      have hbytes : toBytes (String.singleton c) = [c.toNat] := by
        rw [String.singleton_eq_ofList, toBytes_ofList, List.flatMap_singleton,
          utf8EncodeChar_of_lt hbelow]
      rw [percentBytes, hbytes, ih hcs]
      · rfl
      · exact fun _ _ _ hc _ => hpercent hc

theorem readBytes_of_plain (h : Plain cs) (standIn : List Nat → List Char) :
    readBytes standIn none (cs.map Char.toNat) = cs := by
  induction cs with
  | nil => rfl
  | cons c cs ih =>
      obtain ⟨⟨hbelow, -⟩, hcs⟩ := List.forall_mem_cons.mp h
      rw [List.map_cons, readBytes, if_pos hbelow, ih hcs, Char.ofNat_toNat]

/-- **Plain text writes itself with percent signs.** -/
theorem unquote_of_plain (h : Plain cs) : unquote (String.ofList cs) = String.ofList cs := by
  rw [unquote, String.toList_ofList, percentBytes_of_plain h, ofBytes, readBytes_of_plain h]

end Questionnaire.Text
