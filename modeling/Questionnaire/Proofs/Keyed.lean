/-
Rows told apart by a key.

Where no two rows of a list share a key, what is looked up under a key is the one row that has it.
-/
import Mathlib.Data.List.Nodup

namespace Questionnaire

variable {α : Type u} {κ : Type v} [DecidableEq κ]

/-- Where no two rows share a key, a row is found by its key. -/
theorem find?_of_nodup {key : α → κ} {rows : List α} (h : (rows.map key).Nodup) {row : α}
    (hrow : row ∈ rows) : rows.find? (fun other => key other = key row) = some row := by
  obtain ⟨found, hfound⟩ : ∃ found, rows.find? (fun other => key other = key row) = some found :=
    Option.isSome_iff_exists.mp (List.find?_isSome.mpr ⟨row, hrow, decide_eq_true rfl⟩)
  have hkey := List.find?_some hfound
  rw [decide_eq_true_iff] at hkey
  rw [hfound, List.inj_on_of_nodup_map h (List.mem_of_find?_eq_some hfound) hrow hkey]

theorem lookup_isSome_iff {entries : List (κ × α)} {k : κ} :
    (entries.lookup k).isSome = true ↔ k ∈ entries.map Prod.fst := by
  induction entries with
  | nil => simp
  | cons entry entries ih =>
      obtain ⟨other, a⟩ := entry
      rw [List.lookup_cons, List.map_cons, List.mem_cons, ← ih]
      by_cases hk : k = other
      · simp [hk]
      · simp [beq_eq_false_iff_ne.mpr hk, hk]

end Questionnaire
