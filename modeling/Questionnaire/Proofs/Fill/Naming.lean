/-
Fields under any name.

A text names a field, and so do a number, a truth value and null.  Names that are equal name one
field: `samePart_iff` says that this is so just if they mean the same, so that for names it is an
equivalence, whatever kinds they are of.  From that follows what setting and taking away a field
does to every other, as long as nothing but names stands among the fields, `Named`.
-/
import Questionnaire.Fill.Fields

namespace Questionnaire.Fields

open Decimal (Double Finite)

/-! ### What names mean -/

/-- What a name means. -/
inductive Meaning
  | nothing
  | text (s : String)
  | number (value : Rat)
  | infinite (negative : Bool)
  | nan

def Meaning.ofDouble : Double → Meaning
  | .finite x => .number (mkRat (Double.ratio x).1 (Double.ratio x).2)
  | .infinite negative => .infinite negative
  | .nan => .nan

/-- What a value means as a name; lists and records mean nothing. -/
def meaning : Json → Meaning
  | .null | .arr _ | .obj _ => .nothing
  | .str s => .text s
  | .bool b => .number (mkRat (if b then 1 else 0) 1)
  | .int n => .number (mkRat n 1)
  | .float x => .ofDouble x

namespace Meaning

variable (x y : Double)

theorem ratio_ne_zero (x : Finite) : (Double.ratio x).2 ≠ 0 := by
  show (Double.magnitude x).2 ≠ 0
  unfold Double.magnitude
  split
  · exact Nat.one_ne_zero
  · exact Nat.pos_iff_ne_zero.mp (Nat.two_pow_pos _)

theorem ofDouble_ne_nothing : ofDouble x ≠ .nothing := by cases x <;> simp [ofDouble]

theorem ofDouble_ne_text (s : String) : ofDouble x ≠ .text s := by cases x <;> simp [ofDouble]

theorem equalInt_iff (n : Int) : x.equalInt n = true ↔ ofDouble x = .number (mkRat n 1) := by
  cases x with
  | finite x => simp [Double.equalInt, ofDouble, Rat.mkRat_eq_iff, ratio_ne_zero]
  | infinite | nan => simp [Double.equalInt, ofDouble]

/-- The double that is no number is the same as itself among names. -/
theorem equal_or_nan_iff :
    (Json.isNaN (.float x) && Json.isNaN (.float y) || x.equal y) = true ↔
      ofDouble x = ofDouble y := by
  cases x <;> cases y <;>
    simp [Json.isNaN, ofDouble, Rat.mkRat_eq_iff, ratio_ne_zero, Double.equal, Double.compare]

end Meaning

/-- **Names are the same just if they mean the same.** -/
theorem samePart_iff {v w : Json} (hv : isName v = true) (hw : isName w = true) :
    v.samePart w = true ↔ meaning v = meaning w := by
  have hnothing := fun x => (Meaning.ofDouble_ne_nothing x).symm
  have htext := fun x s => (Meaning.ofDouble_ne_text x s).symm
  have hnumber : ∀ x n, Meaning.number n = .ofDouble x ↔ Meaning.ofDouble x = .number n :=
    fun _ _ => eq_comm
  cases v with
  | arr | obj => cases hv
  | null | str | bool | int =>
      cases w with
      | arr | obj => cases hw
      | null | str | bool | int =>
          simp [Json.samePart, Json.isNaN, Json.equal, Json.numericEqual?, Json.number?, meaning,
            Rat.mkRat_eq_iff]
      | float y =>
          simp [Json.samePart, Json.isNaN, Json.equal, Json.numericEqual?, Json.number?, meaning,
            Meaning.equalInt_iff, hnothing, htext, hnumber]
  | float x =>
      cases w with
      | arr | obj => cases hw
      | null | str | bool | int =>
          simp [Json.samePart, Json.isNaN, Json.equal, Json.numericEqual?, Json.number?, meaning,
            Meaning.equalInt_iff, Meaning.ofDouble_ne_nothing, Meaning.ofDouble_ne_text]
      | float y => exact Meaning.equal_or_nan_iff x y

theorem samePart_refl {v : Json} (hv : isName v = true) : v.samePart v = true :=
  (samePart_iff hv hv).mpr rfl

/-- Names that are the same are the same as the same names. -/
theorem samePart_congr {v w u : Json} (hv : isName v = true) (hw : isName w = true)
    (hu : isName u = true) (h : v.samePart w = true) : v.samePart u = w.samePart u := by
  rw [Bool.eq_iff_iff, samePart_iff hv hu, samePart_iff hw hu, (samePart_iff hv hw).mp h]

theorem samePart_comm {v w : Json} (hv : isName v = true) (hw : isName w = true) :
    v.samePart w = w.samePart v := by
  rw [Bool.eq_iff_iff, samePart_iff hv hw, samePart_iff hw hv, eq_comm]

/-! ### Fields after a change -/

variable {α : Type} {fs : Fields α} {id other : Json} {value : α}

/-- Nothing but names stands among the fields. -/
def Named (fs : Fields α) : Prop := ∀ f ∈ fs, isName f.1 = true

theorem Named.nil : Named ([] : Fields α) := fun _ hf => nomatch hf

theorem Named.ofEntries (es : Entries α) : Named (Fields.ofEntries es) := by
  intro f hf
  obtain ⟨e, -, rfl⟩ := List.mem_map.mp hf
  rfl

theorem Named.set (h : Named fs) (hid : isName id = true) (value : α) :
    Named (fs.set id value) := by
  induction fs with
  | nil => exact fun f hf => List.mem_singleton.mp hf ▸ hid
  | cons f fs ih =>
      obtain ⟨hf, hfs⟩ := List.forall_mem_cons.mp h
      rw [Fields.set]
      split
      · exact List.forall_mem_cons.mpr ⟨hf, hfs⟩
      · exact List.forall_mem_cons.mpr ⟨hf, ih hfs⟩

/-- **A field is set for every name that is the same, and every other field stays.** -/
theorem Named.get?_set (h : Named fs) (hid : isName id = true) (hother : isName other = true)
    (value : α) :
    (fs.set id value).get? other = if id.samePart other then some value else fs.get? other := by
  induction fs with
  | nil => rfl
  | cons f fs ih =>
      obtain ⟨name, v⟩ := f
      obtain ⟨hname, hfs⟩ := List.forall_mem_cons.mp h
      rw [Fields.set]
      by_cases hsame : name.samePart id = true
      · rw [if_pos hsame, Fields.get?, Fields.get?, samePart_congr hname hid hother hsame]
        split <;> rfl
      · rw [if_neg hsame, Fields.get?, Fields.get?, ih hfs]
        by_cases hfirst : name.samePart other = true
        · have hnot : ¬id.samePart other = true := by
            rw [samePart_comm hid hother, ← samePart_congr hname hother hid hfirst]
            exact hsame
          rw [if_pos hfirst, if_pos hfirst, if_neg hnot]
        · rw [if_neg hfirst, if_neg hfirst]

theorem Named.has_set (h : Named fs) (hid : isName id = true) (hother : isName other = true)
    (value : α) : (fs.set id value).has other = (id.samePart other || fs.has other) := by
  rw [has, h.get?_set hid hother]
  cases id.samePart other <;> rfl

/-- There is a field just if some name finds one. -/
theorem Named.isEmpty_eq_false_iff (h : Named fs) :
    fs.isEmpty = false ↔ ∃ id, isName id = true ∧ fs.has id = true := by
  cases fs with
  | nil => simp [has, Fields.get?]
  | cons f fs =>
      obtain ⟨name, v⟩ := f
      obtain ⟨hname, -⟩ := List.forall_mem_cons.mp h
      refine iff_of_true rfl ⟨name, hname, ?_⟩
      rw [has, Fields.get?, if_pos (samePart_refl hname)]
      rfl

end Questionnaire.Fields
