/-
Versions count the writes of an answer.

A version starts at one and is only ever counted on.  A column of numbers holds whole
numbers below 2^63, and what is counted beyond that is held as one double for good.
So the versions that can occur are the whole numbers from one up to that bound, and
that double: `Counted.whole_or_beyond`.  `writes` gives each of them its number, and
the other facts are what a session and the store make of a version, in terms of it.
-/
import Questionnaire.Service.Answer

namespace Questionnaire

open Decimal (Double)

namespace Database

theorem fits_iff {n : Int} : fits n = true ↔ -2 ^ 63 ≤ n ∧ n < 2 ^ 63 := by
  simp [fits]

theorem checked_eq_ok {n m : Int} : checked n = .ok m ↔ fits n = true ∧ n = m := by
  unfold checked
  by_cases h : fits n <;> simp [h]

end Database

namespace Number

/-- The version after the greatest whole number of a column. -/
def beyond : Number := .real (Double.ofInt (2 ^ 63))

/-- A version that counting from one reaches. -/
inductive Counted : Number → Prop
  | first : Counted (.whole 1)
  | next {v : Number} (h : Counted v) : Counted v.next

/-- The number that a version stands for. -/
def writes : Number → Int
  | .whole n => n
  | .real _ | .text _ => 2 ^ 63

theorem ofInt_bound : Double.ofInt (2 ^ 63) = .finite ⟨false, 2 ^ 52, 11, by decide⟩ := by
  decide +kernel

theorem next_beyond : beyond.next = beyond := by decide +kernel

theorem next_whole (n : Int) :
    (Number.whole n).next = if Database.fits (n + 1) then .whole (n + 1)
      else .real (Double.ofInt (n + 1)) := rfl

/-- A version that a column can hold is counted on from its number. -/
theorem next_ofInt {n : Int} (h : Database.fits (ofInt n).writes = true) :
    (ofInt n).next = ofInt (n + 1) := by
  unfold ofInt at h
  by_cases hfits : Database.fits n = true
  · rw [ofInt, if_pos hfits]
    rfl
  · rw [if_neg hfits] at h
    have hbound : Database.fits (2 ^ 63) = true := h
    exact absurd hbound (by decide)

/-- What is below the number that a version stands for is below the number it was counted to. -/
theorem lt_of_lt_writes_ofInt {n m : Int} (hm : 0 ≤ m) (h : n < (ofInt m).writes) : n < m := by
  unfold ofInt at h
  by_cases hfits : Database.fits m = true
  · rw [if_pos hfits] at h
    exact h
  · rw [if_neg hfits] at h
    rw [Database.fits_iff] at hfits
    have hbelow : n < 2 ^ 63 := h
    omega

namespace Counted

variable {v : Number}

theorem whole_or_beyond (h : Counted v) :
    (∃ n, v = .whole n ∧ 1 ≤ n ∧ n < 2 ^ 63) ∨ v = beyond := by
  induction h with
  | first => exact Or.inl ⟨1, rfl, by decide, by decide⟩
  | next _ ih =>
      obtain ⟨n, rfl, hlow, hhigh⟩ | rfl := ih
      · rw [next_whole]
        by_cases hfits : Database.fits (n + 1)
        · rw [if_pos hfits]
          exact Or.inl ⟨n + 1, rfl, by omega, (Database.fits_iff.mp hfits).2⟩
        · -- The first number that does not fit is 2^63 itself.
          have hn : n + 1 = 2 ^ 63 := by
            rw [Database.fits_iff] at hfits
            omega
          rw [if_neg hfits, hn]
          exact Or.inr rfl
      · exact Or.inr next_beyond

theorem one_le_writes (h : Counted v) : 1 ≤ v.writes := by
  obtain ⟨n, rfl, hlow, -⟩ | rfl := h.whole_or_beyond
  · exact hlow
  · decide

/-- A session that is told a version goes on from its number. -/
theorem whole_toJson (h : Counted v) : v.toJson.whole = .ok v.writes := by
  obtain ⟨n, rfl, -, -⟩ | rfl := h.whole_or_beyond
  · rfl
  · show (Json.float (Double.ofInt (2 ^ 63))).whole = .ok (2 ^ 63)
    rw [ofInt_bound]
    exact congrArg Except.ok (by decide)

/-- A writer who names a version that was told names its number. -/
theorem readVersion_toJson (h : Counted v) : Service.readVersion v.toJson = .ok v.writes := by
  have hwhole := h.whole_toJson
  obtain ⟨n, rfl, -, -⟩ | rfl := h.whole_or_beyond
  · rfl
  · simp only [beyond, toJson] at hwhole ⊢
    simp only [Service.readVersion, hwhole]

/-- A version that fits a column is the whole number it stands for. -/
theorem eq_whole (h : Counted v) (hfits : Database.fits v.writes = true) :
    v = .whole v.writes := by
  obtain ⟨n, rfl, -, -⟩ | rfl := h.whole_or_beyond
  · rfl
  · exact absurd hfits (by decide)

/-- A version is compared with a writer's by its number. -/
theorem atMost_iff (h : Counted v) {n : Int} (hfits : Database.fits n = true) :
    v.atMost n = true ↔ v.writes ≤ n := by
  obtain ⟨m, rfl, -, -⟩ | rfl := h.whole_or_beyond
  · simp [atMost, writes]
  · have hn := (Database.fits_iff.mp hfits).2
    have hexceeds : (Double.ofInt (2 ^ 63)).exceeds n = true := by
      rw [ofInt_bound]
      show decide (n * ((1 : Nat) : Int) < ((2 ^ 52 * 2 ^ 11 : Nat) : Int)) = true
      rw [decide_eq_true_iff]
      omega
    simp only [atMost, beyond, writes, hexceeds]
    simp only [Bool.not_true, Bool.false_eq_true, false_iff]
    omega

/-- Every write that a column can still count goes up by one. -/
theorem writes_next (h : Counted v) (hfits : Database.fits v.writes = true) :
    v.next.writes = v.writes + 1 := by
  rw [h.eq_whole hfits, next_whole]
  show Number.writes _ = v.writes + 1
  by_cases hnext : Database.fits (v.writes + 1)
  · rw [if_pos hnext]
    rfl
  · rw [if_neg hnext]
    rw [Database.fits_iff] at hfits hnext
    show (2 ^ 63 : Int) = v.writes + 1
    omega

end Counted

end Number

end Questionnaire
