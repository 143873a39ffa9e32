/-
Which id a value names.

A value that names a row is one of those that a column of numbers would hold as a whole number.
So what it names fits such a column, however the value writes it: `Names.fits`.
-/
import Questionnaire.Database.Key
import Questionnaire.Proofs.Database.Version

namespace Questionnaire

namespace Number

variable {v : Number} {i : Int}

theorem fits_of_whole?_ofInt {n : Int} (h : (ofInt n).whole? = some i) :
    Database.fits i = true := by
  unfold ofInt at h
  split at h
  case isTrue hfits => exact Option.some.inj h ▸ hfits
  case isFalse => cases h

theorem fits_of_whole?_ofDouble {x : Decimal.Double} (h : (ofDouble x).whole? = some i) :
    Database.fits i = true := by
  unfold ofDouble at h
  split at h
  case h_1 y =>
    dsimp only at h
    split at h
    case isTrue hrange =>
      simp only [Bool.and_eq_true, decide_eq_true_eq] at hrange
      obtain rfl := Option.some.inj h
      exact Database.fits_iff.mpr ⟨by omega, hrange.2⟩
    case isFalse => cases h
  case h_2 => cases h

theorem fits_of_ofDigits? {negative : Bool} {cs : List Char}
    (hv : ofDigits? negative cs = some v) (h : v.whole? = some i) : Database.fits i = true := by
  unfold ofDigits? at hv
  split at hv
  all_goals
    dsimp only at hv
    rw [Option.ite_none_left_eq_some] at hv
    obtain ⟨-, hv⟩ := hv
    split at hv
    · rw [← Option.some.inj hv] at h
      exact fits_of_whole?_ofInt h
    · rw [← Option.some.inj hv] at h
      exact fits_of_whole?_ofDouble h

theorem fits_of_ofText? {s : String} (hv : ofText? s = some v) (h : v.whole? = some i) :
    Database.fits i = true := by
  unfold ofText? at hv
  split at hv <;> exact fits_of_ofDigits? hv h

end Number

namespace Database

/-- A value names an id. -/
def Names (key : Json) (i : Int) : Prop :=
  ∃ single, Database.single key = .ok single ∧ Database.id? single = .ok (some i)

theorem id?_of_fits {i : Int} (h : fits i = true) : id? (.int i) = .ok (some i) := by
  rw [id?_int, checked_eq_ok.mpr ⟨h, rfl⟩]
  rfl

theorem Names.eq_of_int {i j : Int} (h : Names (.int i) j) : i = j := by
  obtain ⟨single, hsingle, hid⟩ := h
  cases hsingle
  rw [id?_int] at hid
  cases hchecked : checked i with
  | error failure =>
      rw [hchecked] at hid
      cases hid
  | ok n =>
      rw [hchecked] at hid
      cases hid
      exact (checked_eq_ok.mp hchecked).2

/-- What a value names fits a column. -/
theorem Names.fits {key : Json} {i : Int} (h : Names key i) : fits i = true := by
  obtain ⟨single, -, hid⟩ := h
  unfold id? at hid
  cases hnumber : number single with
  | error failure =>
      rw [hnumber] at hid
      cases hid
  | ok v? =>
  rw [hnumber] at hid
  obtain ⟨v, rfl, hwhole⟩ := Option.bind_eq_some_iff.mp (Except.ok.inj hid)
  unfold number at hnumber
  split at hnumber
  case h_3 b =>
    cases hnumber
    cases b <;> exact Option.some.inj hwhole ▸ rfl
  case h_4 n =>
    cases hchecked : checked n with
    | error failure =>
        rw [hchecked] at hnumber
        cases hnumber
    | ok m =>
        rw [hchecked] at hnumber
        cases hnumber
        obtain ⟨hfits, rfl⟩ := checked_eq_ok.mp hchecked
        exact Option.some.inj hwhole ▸ hfits
  case h_5 x =>
    cases hnumber
    exact Number.fits_of_whole?_ofDouble hwhole
  case h_6 text =>
    cases htext : Number.ofText? text with
    | none =>
        rw [htext] at hnumber
        cases hnumber
        cases hwhole
    | some w =>
        rw [htext] at hnumber
        cases hnumber
        exact Number.fits_of_ofText? htext hwhole
  all_goals cases hnumber

end Database

end Questionnaire
