/-
Which instance is found.

An instance is found by its id and by its link.  Where no two instances share either, as in every
table that the operations lead to (`Tables.Sound`), an instance that is there is found by both, and
what is found is no other.
-/
import Questionnaire.Proofs.Database.Naming
import Questionnaire.Proofs.Keyed
import Questionnaire.Proofs.Service.Operation

namespace Questionnaire

namespace Tables

variable {t : Tables} {row other : Instance} {key : Json} {i : Int}

theorem mem_of_instance? (h : t.instance? i = some row) : row ∈ t.instances ∧ row.id = i := by
  have hid := List.find?_some h
  exact ⟨List.mem_of_find?_eq_some h, of_decide_eq_true hid⟩

theorem named_of_names (h : Database.Names key i) : t.named key = .ok (t.instance? i) := by
  obtain ⟨single, hsingle, hid⟩ := h
  rw [named, hsingle]
  dsimp only
  rw [hid]
  rfl

/-- What is found by a name has the id that is named. -/
theorem names_of_named (h : t.named key = .ok (some row)) :
    Database.Names key row.id ∧ row ∈ t.instances := by
  unfold named at h
  cases hsingle : Database.single key with
  | error failure =>
      rw [hsingle] at h
      cases h
  | ok single =>
  cases hid : Database.id? single with
  | error failure =>
      simp only [hsingle, hid] at h
      cases h
  | ok found =>
      simp only [hsingle, hid] at h
      obtain ⟨i, hi, hrow⟩ := Option.bind_eq_some_iff.mp (Except.ok.inj h)
      obtain ⟨hmem, rfl⟩ := mem_of_instance? hrow
      exact ⟨⟨single, hsingle, hi ▸ hid⟩, hmem⟩

/-! ### Telling instances apart -/

namespace Sound

variable (h : t.Sound)

include h

theorem eq_of_id (hrow : row ∈ t.instances) (hother : other ∈ t.instances)
    (hid : other.id = row.id) : other = row :=
  List.inj_on_of_nodup_map h.ids hother hrow hid

theorem instance?_of_mem (hrow : row ∈ t.instances) : t.instance? row.id = some row :=
  find?_of_nodup h.ids hrow

theorem instanceAt?_of_mem (hrow : row ∈ t.instances) : t.instanceAt? row.link = some row :=
  find?_of_nodup h.links hrow

theorem under_of_mem (hrow : row ∈ t.instances) {link : Json}
    (hlink : Database.column link = .ok (some row.link)) : t.under link = .ok (some row) := by
  rw [under, hlink]
  exact congrArg Except.ok (h.instanceAt?_of_mem hrow)

/-- What is open is another instance than one that is locked. -/
theorem id_ne_of_opened (hrow : row ∈ t.instances) (hlocked : row.isLocked = true)
    (hother : other ∈ t.instances) (hopened : other.isLocked = false) : row.id ≠ other.id := by
  intro hid
  rw [h.eq_of_id hrow hother hid.symm, hlocked] at hopened
  cases hopened

end Sound

end Tables

end Questionnaire
