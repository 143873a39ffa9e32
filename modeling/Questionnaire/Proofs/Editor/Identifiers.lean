/-
Ids that are made up.

A new question gets the first number that is free behind its stem.  What is free is read
off everything that is in the editor, `usedIds`: the id of every item and, for a checkbox
group, the ids of its options.  One more number is tried than there are ids in use, so that
one of them is free; and it is an id that the check finds nothing wrong with, for it has
letters, an underscore and digits only.
-/
import Questionnaire.Editor.Basic
import Questionnaire.Validation
import Questionnaire.Proofs.Attempt
import Questionnaire.Proofs.Editor.Editing
import Questionnaire.Proofs.Json.Numbers

namespace Questionnaire

namespace Editor

/-! ### Numbered ids -/

theorem toList_numbered (stem : String) (n : Nat) :
    (numbered stem n).toList = stem.toList ++ '_' :: Nat.toDigits 10 n := by
  simp [numbered, Nat.toString_eq_repr, Nat.toList_repr]

theorem numbered_injective (stem : String) : Function.Injective (numbered stem) := by
  intro n m h
  have hlists := congrArg String.toList h
  rw [toList_numbered, toList_numbered, List.append_cancel_left_eq, List.cons.injEq] at hlists
  have hvalues := congrArg (Nat.ofDigitChars 10 · 0) hlists.2
  simpa using hvalues

theorem numbered_ne_empty (stem : String) (n : Nat) : numbered stem n ≠ "" := by
  intro h
  have hlists := congrArg String.toList h
  rw [toList_numbered] at hlists
  simp at hlists

theorem isId_of_chars {id : String} (hne : id.toList ≠ [])
    (hchars : ∀ c ∈ id.toList, Validation.isIdChar c = true) : Validation.isId id = true := by
  have hreverse : ∀ c ∈ id.toList.reverse, Validation.isIdChar c = true :=
    fun c hc => hchars c (List.mem_reverse.mp hc)
  unfold Validation.isId
  cases hcs : id.toList.reverse with
  | nil => exact absurd (List.reverse_eq_nil_iff.mp hcs) hne
  | cons c cs =>
      rw [hcs] at hreverse
      have hc : c ≠ '\n' := by
        rintro rfl
        exact absurd (hreverse '\n' List.mem_cons_self) (by decide)
      split
      case h_1 heq => exact absurd (List.cons.inj heq).1 hc
      case h_2 => simpa using hreverse

/-- A numbered id is well formed if its stem is. -/
theorem isId_numbered {stem : String} (hstem : stem.toList.all Validation.isIdChar = true)
    (n : Nat) : Validation.isId (numbered stem n) = true := by
  refine isId_of_chars (by rw [toList_numbered]; simp) ?_
  rw [toList_numbered, List.forall_mem_append, List.forall_mem_cons]
  refine ⟨List.all_eq_true.mp hstem, rfl, fun c hc => ?_⟩
  have hdigit := Json.isDigit_of_mem_toDigits hc
  rw [Json.isDigit] at hdigit
  simp [Validation.isIdChar, hdigit]

/-! ### Ids in use -/

/-- Some value in use equals the text. -/
def Taken (used : List Json) (id : String) : Prop := ∃ v ∈ used, v.equal (.str id) = true

theorem taken_iff_mem {used : List Json} {id : String} : Taken used id ↔ .str id ∈ used := by
  constructor
  · rintro ⟨v, hv, hequal⟩
    rwa [← eq_str_of_equal hequal]
  · exact fun hmem => ⟨_, hmem, by rw [Json.equal, beq_self_eq_true]⟩

theorem mem_addTo {used : List Json} {v : Json} {id : String} :
    .str id ∈ addTo used v ↔ .str id ∈ used ∨ .str id = v := by
  unfold addTo
  split
  case isTrue hthere =>
    refine ⟨.inl, fun h => ?_⟩
    rcases h with h | rfl
    · exact h
    obtain ⟨w, hw, hsame⟩ := List.any_eq_true.mp hthere
    have hequal : w.equal (.str id) = true := by
      simpa [Json.samePart, Json.isNaN] using hsame
    exact taken_iff_mem.mp ⟨w, hw, hequal⟩
  case isFalse => rw [List.mem_append, List.mem_singleton]

/-- A text is in use if it is among the values that were gathered. -/
theorem mem_foldl_addTo {values used : List Json} {id : String} :
    .str id ∈ values.foldl addTo used ↔ .str id ∈ used ∨ .str id ∈ values := by
  induction values generalizing used with
  | nil => simp
  | cons v values ih => rw [List.foldl_cons, ih, mem_addTo, List.mem_cons, or_assoc]

/-- A step that succeeds for every element of a list gives all the values. -/
theorem mapM_eq_ok {α β ε : Type} {f : α → Except ε β} {as : List α}
    (h : ∀ a ∈ as, ∃ b, f a = .ok b) :
    ∃ bs, as.mapM f = .ok bs ∧ ∀ a ∈ as, ∀ b, f a = .ok b → b ∈ bs := by
  induction as with
  | nil => exact ⟨[], rfl, nofun⟩
  | cons a as ih =>
      obtain ⟨⟨b, hb⟩, hrest⟩ := List.forall_mem_cons.mp h
      obtain ⟨bs, hbs, hmem⟩ := ih hrest
      refine ⟨b :: bs, ?_, List.forall_mem_cons.mpr ⟨fun c hc => ?_, fun x hx c hc => ?_⟩⟩
      · rw [List.mapM_cons, hb, hbs]
        rfl
      · obtain rfl := Except.ok.inj (hb.symm.trans hc)
        exact List.mem_cons_self
      · exact List.mem_cons_of_mem _ (hmem x hx c hc)

/-- Where the ids of every item can be read, those in use can. -/
theorem usedIds_of_forall {e : Editor}
    (h : ∀ item ∈ e.live, ∃ ids, idsOf item.attributes = .ok ids) :
    ∃ used, e.usedIds = .ok used ∧
      ∀ item ∈ e.live, ∀ ids, idsOf item.attributes = .ok ids →
        ∀ id, .str id ∈ ids → .str id ∈ used := by
  obtain ⟨all, hall, hmem⟩ := mapM_eq_ok (f := fun item : Live => idsOf item.attributes) h
  refine ⟨all.flatten.foldl addTo [], by rw [usedIds, hall]; rfl, ?_⟩
  intro item hitem ids hids id hid
  exact mem_foldl_addTo.mpr (.inr (List.mem_flatten.mpr ⟨ids, hmem item hitem ids hids, hid⟩))

/-! ### Free ids -/

/-- Among one number more than there are values there is one whose id is none of them. -/
theorem exists_free (stem : String) (used : List Json) :
    ∃ n < used.length + 1, .str (numbered stem (n + 1)) ∉ used := by
  by_contra hnone
  push Not at hnone
  have hnodup :
      ((List.range (used.length + 1)).map fun n => Json.str (numbered stem (n + 1))).Nodup :=
    List.nodup_range.map fun n m h =>
      Nat.succ_injective (numbered_injective stem (Json.str.inj h))
  have hsubset :
      (List.range (used.length + 1)).map (fun n => Json.str (numbered stem (n + 1))) ⊆ used := by
    intro v hv
    obtain ⟨n, hn, rfl⟩ := List.mem_map.mp hv
    exact hnone n (List.mem_range.mp hn)
  have hlength := (hnodup.subperm hsubset).length_le
  rw [List.length_map, List.length_range] at hlength
  omega

/-- The id that is made up has the first number that is free, and no more numbers are taken before
it than there are values in use. -/
theorem generateId_first {e : Editor} {used : List Json} (h : e.usedIds = .ok used)
    (stem : String) :
    ∃ n ≤ used.length, e.generateId stem = .ok (numbered stem (n + 1)) ∧
      .str (numbered stem (n + 1)) ∉ used ∧ ∀ m < n, .str (numbered stem (m + 1)) ∈ used := by
  have hfree (n : Nat) : (!used.any (·.equal (.str (numbered stem (n + 1))))) = true ↔
      .str (numbered stem (n + 1)) ∉ used := by
    rw [← taken_iff_mem, Taken, Bool.not_eq_true', ← Bool.not_eq_true, List.any_eq_true]
  cases hfind : (List.range (used.length + 1)).find? fun n =>
      !used.any (·.equal (.str (numbered stem (n + 1)))) with
  | none =>
      obtain ⟨n, hn, hnot⟩ := exists_free stem used
      exact absurd ((hfree n).mpr hnot) (List.find?_eq_none.mp hfind n (List.mem_range.mpr hn))
  | some n =>
      obtain ⟨hnot, hrange, hbefore⟩ := List.find?_range_eq_some.mp hfind
      refine ⟨n, Nat.lt_succ_iff.mp (List.mem_range.mp hrange), ?_, (hfree n).mp hnot, ?_⟩
      · rw [generateId, h]
        simp only [bind, Except.bind, hfind, Option.getD_some]
        rfl
      · intro m hm
        by_contra htaken
        have hpassed := hbefore m hm
        rw [(hfree m).mpr htaken] at hpassed
        cases hpassed

/-- **The id that is made up is free.** -/
theorem generateId_free {e : Editor} {used : List Json} (h : e.usedIds = .ok used) (stem : String) :
    ∃ n, e.generateId stem = .ok (numbered stem n) ∧ .str (numbered stem n) ∉ used := by
  obtain ⟨n, -, hid, hfree, -⟩ := generateId_first h stem
  exact ⟨n + 1, hid, hfree⟩

end Editor

end Questionnaire
