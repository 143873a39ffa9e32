/-
Values under names.

Looking up finds the first entry of a name, setting one changes that entry or adds one at the end,
so that a name which stands once goes on standing once, `nodup_set`.  Where several values are set
one after the other, what stands under a name is the last of them, `get?_setAll`, and where all the
names are new, they stand behind the others in their order.
-/
import Mathlib.Data.List.Induction
import Questionnaire.Entries
import Questionnaire.Proofs.Keyed

namespace Questionnaire.Entries

variable {α : Type u} {es more : Entries α} {name : String} {value : α}

/-! ### Looking up -/

theorem get?_append (es fs : Entries α) (name : String) :
    Entries.get? (es ++ fs) name = (es.get? name).or (fs.get? name) := by
  induction es with
  | nil => rfl
  | cons e es ih =>
      obtain ⟨n, v⟩ := e
      rw [List.cons_append, get?_cons, get?_cons, ih]
      split <;> rfl

/-- Names are looked up past entries that are left out by their names. -/
theorem get?_filter (p : String → Bool) (es : Entries α) (name : String) :
    Entries.get? (es.filter fun e => p e.1) name = if p name then es.get? name else none := by
  induction es with
  | nil => simp
  | cons e es ih =>
      obtain ⟨n, v⟩ := e
      rw [List.filter_cons, get?_cons]
      by_cases hn : name = n
      · subst hn
        cases hp : p name <;> simp [hp, ih, get?_cons]
      · cases hp : p n <;> simp [hn, ih, get?_cons]

theorem get?_eq_none_iff : es.get? name = none ↔ name ∉ es.names := by
  rw [← Option.not_isSome_iff_eq_none]
  exact not_congr lookup_isSome_iff

/-- Where all names are distinct, no later entry has the name of the first one. -/
theorem ne_of_mem {e f : String × α} (h : (Entries.names (e :: es)).Nodup) (hf : f ∈ es) :
    f.1 ≠ e.1 := by
  intro heq
  exact (List.nodup_cons.mp h).1 (heq ▸ List.mem_map.mpr ⟨f, hf, rfl⟩)

/-! ### Setting a name -/

theorem set_of_get? (h : es.get? name = some value) : es.set name value = es := by
  induction es with
  | nil => cases h
  | cons e es ih =>
      obtain ⟨n, v⟩ := e
      rw [get?_cons] at h
      by_cases hn : n = name
      · rw [if_pos hn.symm] at h
        rw [set, if_pos hn, Option.some.inj h]
      · rw [if_neg (Ne.symm hn)] at h
        rw [set, if_neg hn, ih h]

/-- A new name goes to the end. -/
theorem set_of_notMem (h : name ∉ es.names) (value : α) :
    es.set name value = es ++ [(name, value)] := by
  induction es with
  | nil => rfl
  | cons e es ih =>
      obtain ⟨n, v⟩ := e
      simp only [names, List.map_cons, List.mem_cons, not_or] at h
      rw [set, if_neg (Ne.symm h.1), ih h.2, List.cons_append]

theorem set_of_get?_eq_none (h : es.get? name = none) :
    es.set name value = es ++ [(name, value)] :=
  set_of_notMem (get?_eq_none_iff.mp h) value

/-- Setting a name that is there once changes its entry alone. -/
theorem set_eq_map (hdistinct : es.names.Nodup) (hmem : name ∈ es.names) (value : α) :
    es.set name value = es.map fun e => if e.1 = name then (name, value) else e := by
  induction es with
  | nil => cases hmem
  | cons e es ih =>
      obtain ⟨n, v⟩ := e
      obtain ⟨hnew, hrest⟩ := List.nodup_cons.mp hdistinct
      rw [set, List.map_cons]
      by_cases hn : n = name
      · subst hn
        have hsame : (es.map fun e => if e.1 = n then (n, value) else e) = es.map id :=
          List.map_congr_left fun e he => if_neg fun heq => hnew (List.mem_map.mpr ⟨e, he, heq⟩)
        rw [if_pos rfl, if_pos rfl, hsame, List.map_id]
      · rw [if_neg hn, if_neg hn, ih hrest ((List.mem_cons.mp hmem).resolve_left (Ne.symm hn))]

theorem mem_names_set {other : String} (h : other ∈ (es.set name value).map Prod.fst) :
    other = name ∨ other ∈ es.map Prod.fst := by
  induction es with
  | nil => simpa [set] using h
  | cons e es ih =>
      obtain ⟨n, v⟩ := e
      by_cases hn : n = name
      · rw [set, if_pos hn] at h
        exact Or.inr h
      · rw [set, if_neg hn, List.map_cons, List.mem_cons] at h
        rcases h with rfl | h
        · exact Or.inr List.mem_cons_self
        · exact (ih h).imp id (List.mem_cons_of_mem n)

/-- Setting a name keeps every name standing once. -/
theorem nodup_set (h : (es.map Prod.fst).Nodup) (name : String) (value : α) :
    ((es.set name value).map Prod.fst).Nodup := by
  induction es with
  | nil => simp [set]
  | cons e es ih =>
      obtain ⟨n, v⟩ := e
      rw [List.map_cons, List.nodup_cons] at h
      by_cases hn : n = name
      · rw [set, if_pos hn, List.map_cons, List.nodup_cons]
        exact h
      · rw [set, if_neg hn, List.map_cons, List.nodup_cons]
        refine ⟨fun hmem => ?_, ih h.2⟩
        rcases mem_names_set hmem with heq | hold
        · exact hn heq
        · exact h.1 hold

/-- What is in a list after a name was set was set or was in it before. -/
theorem mem_set {e : String × α} (h : e ∈ es.set name value) : e.2 = value ∨ e ∈ es := by
  induction es with
  | nil =>
      rw [set, List.mem_singleton] at h
      exact Or.inl (by rw [h])
  | cons first es ih =>
      obtain ⟨n, v⟩ := first
      by_cases hn : n = name
      · rw [set, if_pos hn, List.mem_cons] at h
        rcases h with rfl | h
        · exact Or.inl rfl
        · exact Or.inr (List.mem_cons_of_mem _ h)
      · rw [set, if_neg hn, List.mem_cons] at h
        rcases h with rfl | h
        · exact Or.inr List.mem_cons_self
        · exact (ih h).imp id (List.mem_cons_of_mem _)

/-! ### Setting names one after the other -/

theorem nodup_setAll (hes : es.names.Nodup) (more : Entries α) : (es.setAll more).names.Nodup := by
  induction more generalizing es with
  | nil => exact hes
  | cons e more ih => exact ih (nodup_set hes e.1 e.2)

/-- Under a name stands what was set last. -/
theorem get?_setAll (es more : Entries α) (name : String) :
    (es.setAll more).get? name = (get? more.reverse name).or (es.get? name) := by
  induction more using List.reverseRecOn with
  | nil => rfl
  | append_singleton more e ih =>
      obtain ⟨n, v⟩ := e
      rw [setAll, List.foldl_append, List.foldl_cons, List.foldl_nil, List.reverse_append,
        List.reverse_singleton, List.singleton_append, get?_cons]
      by_cases h : name = n
      · subst h
        rw [get?_set_self, if_pos rfl, Option.some_or]
      · rw [get?_set_of_ne _ _ h, if_neg h]
        exact ih

theorem get?_setAll_eq_none (h : es.get? name = none) (hmore : more.get? name = none) :
    (es.setAll more).get? name = none := by
  rw [get?_eq_none_iff, names, ← List.mem_reverse, ← List.map_reverse] at hmore
  rw [get?_setAll, get?_eq_none_iff.mpr hmore, Option.none_or, h]

theorem get?_setAll_nil_iff :
    get? (setAll [] more) name = some value ↔
      ∃ front back, more = front ++ (name, value) :: back ∧ name ∉ names back := by
  rw [get?_setAll, get?_nil, Option.or_none, get?, List.lookup_eq_some_iff]
  constructor
  · rintro ⟨back, front, hmore, hback⟩
    refine ⟨front.reverse, back.reverse, ?_, fun hmem => ?_⟩
    · rw [← List.reverse_reverse more, hmore, List.reverse_append, List.reverse_cons,
        List.append_assoc, List.singleton_append]
    · obtain ⟨entry, hentry, rfl⟩ := List.mem_map.mp hmem
      exact bne_iff_ne.mp (hback entry (List.mem_reverse.mp hentry)) rfl
  · rintro ⟨front, back, rfl, hback⟩
    refine ⟨back.reverse, front.reverse, ?_, fun entry hentry => bne_iff_ne.mpr ?_⟩
    · rw [List.reverse_append, List.reverse_cons, List.append_assoc, List.singleton_append]
    · rintro rfl
      exact hback (List.mem_map_of_mem (List.mem_reverse.mp hentry))

/-- New names go to the end in their order. -/
theorem setAll_of_get?_eq_none (hnew : ∀ name ∈ more.names, es.get? name = none)
    (hnodup : more.names.Nodup) : es.setAll more = es ++ more := by
  induction more generalizing es with
  | nil => exact (List.append_nil es).symm
  | cons m more ih =>
      obtain ⟨n, v⟩ := m
      obtain ⟨hn, hmore⟩ := List.forall_mem_cons.mp hnew
      obtain ⟨hfirst, hrest⟩ := List.nodup_cons.mp hnodup
      show Entries.setAll (es.set n v) more = es ++ (n, v) :: more
      rw [set_of_get?_eq_none hn, ih ?_ hrest, List.append_assoc, List.singleton_append]
      intro name hname
      rw [get?_append, hmore name hname, Option.none_or, get?_cons, if_neg, get?_nil]
      rintro rfl
      exact hfirst hname

end Questionnaire.Entries
