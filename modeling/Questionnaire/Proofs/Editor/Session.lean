/-
A session of editing.

An editor is opened, empty or on a document, and then edited step by step; a step may be refused.
Whatever the steps were, the editor depicts woods, `depicts_after`, and trees stand nowhere in them
just if some step went astray: it got as far as a list and its position turned out to be none.

`Later` is what the steps leave of the handles: one that was given is not given again, so an item
that is not there any more does not come back.
-/
import Questionnaire.Proofs.Editor.Editing

namespace Questionnaire.Editor

open Questionnaire.Editor.Tree
open Questionnaire.Attempt (Keeps)

/-- A change of an editor. -/
inductive Edit
  | add (raw : Json) (parent : Option Int) (slot : Json) (position : Position)
  | update (handle : Int) (attributes : Entries Json)
  | remove (handle : Int)
  | move (handle : Int) (parent : Option Int) (slot : Json) (position : Position)
  | select (handle : Option Int)

namespace Edit

def attempt : Edit → Attempt Editor Unit
  | add raw parent slot position => do let _ ← Editor.add raw parent slot position
  | update handle attributes => Editor.update handle attributes
  | remove handle => Editor.remove handle
  | move handle parent slot position => Editor.move handle parent slot position
  | select handle => Editor.select handle

/-- The editor after a change, which may have been refused. -/
def after (edit : Edit) (e : Editor) : Editor := (edit.attempt.run e).2

theorem run_eq {edit : Edit} {e : Editor} (h : (edit.attempt.run e).1 = .ok ()) :
    edit.attempt.run e = (.ok (), edit.after e) := Prod.ext h rfl

/-- The change gets as far as a list and its position is none. -/
def Strays (e : Editor) : Edit → Prop
  | add raw parent slot position => (∃ place, e.place parent slot = .ok place) ∧ Astray position raw
  | move handle parent slot position => e.Uprooted handle parent slot position
  | update .. | remove .. | select .. => False

/-- The position of the change, if it has one, is one that a list takes. -/
def Usable : Edit → Prop
  | add _ _ _ position => position.Usable
  | move _ _ _ position => position.Usable
  | update .. | remove .. | select .. => True

end Edit

/-- The editor after changes. -/
def after (edits : List Edit) (e : Editor) : Editor := edits.foldl (fun e edit => edit.after e) e

/-- One of the changes strays when its turn comes. -/
def Strayed (e : Editor) : List Edit → Prop
  | [] => False
  | edit :: edits => edit.Strays e ∨ Strayed (edit.after e) edits

/-- An editor before any change. -/
inductive Opened : Editor → Prop
  | empty (version : Json) : Opened { version }
  | document {d : Document} {e : Editor} (h : ofDocument d = .ok e) : Opened e

variable {e e' e₀ : Editor} {w : Woods} {edits : List Edit}

theorem Edit.not_strays {edit : Edit} (h : edit.Usable) : ¬edit.Strays e := by
  cases edit with
  | add raw parent slot position => exact fun hstrays => hstrays.2.1 h
  | move handle parent slot position => exact fun hstrays => hstrays.1 h
  | update | remove | select => exact id

theorem not_strayed (h : ∀ edit ∈ edits, edit.Usable) : ¬Strayed e edits := by
  induction edits generalizing e with
  | nil => exact id
  | cons edit edits ih =>
      rintro (hstrays | hstrayed)
      · exact Edit.not_strays (h edit List.mem_cons_self) hstrays
      · exact ih (fun other hother => h other (List.mem_cons_of_mem edit hother)) hstrayed

/-! ### The woods after changes -/

theorem depicts_empty (version : Json) : Depicts { version } ⟨[], []⟩ where
  labels := .refl _
  nodup := List.nodup_nil
  fresh := fun _ hk => nomatch hk
  children := fun hlist => by
    cases hlist with
    | top => rfl
    | inside hn slot => cases hn
  placed := fun hlist t ht => by
    cases hlist with
    | top => cases ht
    | inside hn slot => cases hn
  top := List.mem_singleton_self _
  keys := List.nodup_singleton _
  opened := fun _ hplace => Or.inl (List.mem_singleton.mp hplace)
  tidy := fun _ hl => nomatch hl
  selected := fun _ hk => nomatch hk

theorem Opened.depicts (h : Opened e) : ∃ w, Depicts e w ∧ w.loose = [] := by
  cases h with
  | empty version => exact ⟨_, depicts_empty version, rfl⟩
  | @document d _ h =>
      have hadded := leads_insertAll (Or.inl rfl) 0 (Item.allToJson d.items) (start d)
        ⟨depicts_empty (.int d.version), rfl⟩
      rw [ofDocument_eq] at h
      split at h
      · next hrun =>
          obtain rfl := Except.ok.inj h
          rw [hrun] at hadded
          cases hadded with
          | ok hok => exact ⟨_, hok.1, rfl⟩
      · cases h

/-- The editor depicts woods, and trees stand nowhere in them just if some did before or a change
strayed. -/
def Left (w : Woods) (strayed : Prop) (e : Editor) : Prop :=
  ∃ w', Depicts e w' ∧ (w'.loose = [] ↔ w.loose = [] ∧ ¬strayed)

theorem Depicts.left {w' : Woods} {strayed : Prop} (h : Depicts e w')
    (hloose : w'.loose = [] ↔ w.loose = []) (hnot : ¬strayed) : Left w strayed e :=
  ⟨w', h, hloose.trans (and_iff_left hnot).symm⟩

/-- **A change makes woods of woods.** -/
theorem Edit.left_after (h : Depicts e w) (edit : Edit) :
    Left w (edit.Strays e) (edit.after e) := by
  cases edit with
  | add raw parent slot position =>
      rw [after, attempt, Attempt.forget_state]
      refine (ledTo_add h raw parent slot position).state ?_ ?_
      · rintro k e' ⟨-, husable, -, place, -, he'⟩
        exact he'.left (Woods.loose_edit_eq_nil _ _ _) (Edit.not_strays husable)
      · rintro e' ⟨w', hw', hloose, -⟩
        exact ⟨w', hw', hloose⟩
  | update handle attributes =>
      refine (ledTo_update h handle attributes).state ?_ ?_
      · rintro - e' ⟨item, -, he'⟩
        exact he'.left (Woods.loose_amend_eq_nil _ _ _) id
      · rintro e' (rfl | ⟨item, f, -, he'⟩)
        · exact h.left Iff.rfl id
        · exact he'.left (Woods.loose_amend_eq_nil _ _ _) id
  | remove handle =>
      refine (ledTo_remove h handle).state ?_ ?_
      · rintro - e' ⟨item, ts, -, -, -, he'⟩
        exact he'.left (Woods.loose_edit_eq_nil _ _ _) id
      · rintro e' ⟨rfl, -⟩
        exact h.left Iff.rfl id
  | move handle parent slot position =>
      refine (ledTo_move h handle parent slot position).state ?_ ?_
      · rintro - e' ⟨husable, item, ts, t, place, -, -, -, -, -, -, he'⟩
        refine he'.left ?_ (Edit.not_strays husable)
        rw [Woods.loose_edit_eq_nil, Woods.loose_edit_eq_nil]
      · rintro e' (⟨hnot, rfl⟩ | ⟨hstrays, item, ts, t, -, -, -, -, he'⟩)
        · exact h.left Iff.rfl hnot
        · exact ⟨_, he', iff_of_false (by simp [Woods.aside]) fun hnot => hnot.2 hstrays⟩
  | select handle =>
      refine (ledTo_select h handle).state ?_ ?_
      · exact fun _ e' he' => he'.left Iff.rfl id
      · rintro e' rfl
        exact h.left Iff.rfl id

/-- **Whatever was done, the editor depicts woods.** -/
theorem Depicts.left_after (h : Depicts e w) (edits : List Edit) :
    Left w (Strayed e edits) (after edits e) := by
  induction edits generalizing e w with
  | nil => exact h.left Iff.rfl id
  | cons edit edits ih =>
      obtain ⟨w₁, h₁, hloose₁⟩ := edit.left_after h
      obtain ⟨w₂, h₂, hloose₂⟩ := ih h₁
      refine ⟨w₂, h₂, ?_⟩
      rw [hloose₂, hloose₁, Strayed, not_or, and_assoc]

theorem Opened.depicts_after (h : Opened e) (edits : List Edit) :
    ∃ w, Depicts (after edits e) w ∧ (w.loose = [] ↔ ¬Strayed e edits) := by
  obtain ⟨w, hw, hloose⟩ := h.depicts
  obtain ⟨w', hw', hloose'⟩ := hw.left_after edits
  exact ⟨w', hw', by rw [hloose', and_iff_right hloose]⟩

/-! ### Handles after changes -/

/-- What came of an editor: handles that were given and are gone do not come back. -/
structure Later (e e' : Editor) : Prop where
  version : e'.version = e.version
  next : e.next ≤ e'.next
  live : ∀ k < e.next, (e'.find? k).isSome = true → (e.find? k).isSome = true

theorem Later.refl (e : Editor) : Later e e := ⟨rfl, Nat.le_refl _, fun _ _ => id⟩

theorem Later.of_live (h : Later e₀ e) (hversion : e'.version = e.version)
    (hlive : e'.live = e.live) (hnext : e.next ≤ e'.next) : Later e₀ e' where
  version := hversion.trans h.version
  next := Nat.le_trans h.next hnext
  live := fun k hk hfound => h.live k hk (by rwa [find?, ← hlive])

theorem Later.putList (h : Later e₀ e) (place : Place) (handles : List Nat) :
    Later e₀ (e.putList place handles) := h.of_live rfl rfl (Nat.le_refl _)

/-- A property of editors that does not ask where items stand and is not lost with items. -/
structure Steady (P : Editor → Prop) : Prop where
  putList : ∀ {e}, P e → ∀ place handles, P (e.putList place handles)
  relocate : ∀ {e}, P e → ∀ handle place,
    P (e.modifyLive handle fun item => { item with place })
  drop : ∀ {e}, P e → ∀ handles, P (e.drop handles)
  touched : ∀ {e}, P e → P { e with dirty := true }

namespace Steady

variable {P : Editor → Prop} (hP : Steady P)

include hP

theorem keeps_putList (place : Place) (handles : List Nat) :
    Keeps P (modify (·.putList place handles) : Attempt Editor PUnit) :=
  Attempt.keeps_modify fun _ he => hP.putList he place handles

theorem keeps_enlist (place : Place) (position : Position) (handle : Nat) :
    Keeps P (enlist place position handle) := by
  refine Attempt.keeps_get_bind fun e he => ?_
  exact (Attempt.keeps_set (hP.putList he _ _)).bind (fun _ => (Attempt.keeps_fit _).bind fun _ =>
    hP.keeps_putList _ _) e he

theorem keeps_delist (place : Place) (handle : Nat) : Keeps P (delist place handle) := by
  refine Attempt.keeps_get_bind fun e he => ?_
  cases e.list? place with
  | none => exact he
  | some handles =>
      simp only
      split
      · exact hP.putList he _ _
      · exact he

theorem keeps_touch : Keeps P touch := Attempt.keeps_modify fun _ => hP.touched

theorem keeps_remove (handle : Int) : Keeps P (remove handle) := by
  refine Attempt.keeps_get_bind fun e he => ?_
  exact (Attempt.keeps_lift _).bind (fun (item : Live) =>
    (hP.keeps_delist item.place item.handle).bind fun _ =>
      (Attempt.keeps_modify fun _ he' => hP.drop he' _).bind fun _ => hP.keeps_touch) e he

theorem keeps_move (handle : Int) (parent : Option Int) (slot : Json) (position : Position) :
    Keeps P (move handle parent slot position) := by
  refine Attempt.keeps_get_bind fun e he => ?_
  refine (Attempt.keeps_lift _).bind (fun item => Attempt.keeps_get_bind fun e he => ?_) e he
  refine (Attempt.keeps_lift _).bind (fun place => Attempt.keeps_get_bind fun e he => ?_) e he
  simp only
  split
  · exact he
  · exact (hP.keeps_delist item.place item.handle).bind (fun _ =>
      (hP.keeps_enlist place position item.handle).bind fun _ =>
        (Attempt.keeps_modify fun _ he' => hP.relocate he' item.handle place).bind
          fun _ => hP.keeps_touch) e he

end Steady

theorem Later.modifyLive (h : Later e₀ e) (handle : Nat) {f : Live → Live}
    (hf : ∀ item, (f item).handle = item.handle) : Later e₀ (e.modifyLive handle f) where
  version := h.version
  next := h.next
  live := by
    intro k hk hfound
    rw [find?_modifyLive e handle hf, Option.isSome_map] at hfound
    exact h.live k hk hfound

theorem Later.drop (h : Later e₀ e) (handles : List Nat) : Later e₀ (e.drop handles) where
  version := h.version
  next := h.next
  live := by
    intro k hk hfound
    rw [find?_drop] at hfound
    split at hfound
    · cases hfound
    · exact h.live k hk hfound

theorem steady_later : Steady (Later e₀) where
  putList he place handles := he.putList place handles
  relocate he handle _ := he.modifyLive handle fun _ => rfl
  drop he handles := he.drop handles
  touched he := he.of_live rfl rfl (Nat.le_refl _)

/-- An item is recorded under a handle that was not given before. -/
theorem Later.record (h : Later e₀ e) {item : Live} (hnew : e₀.next ≤ item.handle) :
    Later e₀ { e with live := e.live ++ [item] } where
  version := h.version
  next := h.next
  live := by
    intro k hk hlive
    refine h.live k hk ?_
    have hne : ¬item.handle = k := by omega
    simpa [find?, List.find?_append, hne] using hlive

/-- Each slot is filled just if the type has it, and the next one after it. -/
theorem keeps_insertSlots {P : Editor → Prop} {handle : Nat} {ms : Entries Json}
    (h : ∀ slot, Keeps P (insertSlot handle slot ms)) (slots : List Slot) :
    Keeps P (insertSlots handle slots ms) := by
  have hslot : ∀ slot (next : PUnit → Attempt Editor Nat), (∀ x, Keeps P (next x)) →
      Keeps P (if slots.contains slot = true then insertSlot handle slot ms >>= next
        else next ⟨⟩) := by
    intro slot next hnext
    split
    · exact (h slot).bind hnext
    · exact hnext _
  exact hslot .items _ fun _ => hslot .yes _ fun _ => hslot .no _ fun _ => Attempt.keeps_pure _

mutual

theorem keeps_insert (place : Place) (position : Position) (v : Json) :
    Keeps (Later e₀) (insert place position v) := by
  cases v with
  | obj ms =>
      refine Attempt.keeps_get_bind fun e he => ?_
      refine (Attempt.keeps_modify fun e' he' => ?_).bind (fun _ => (Attempt.keeps_fit _).bind
        fun slots => (Attempt.keeps_modify fun e' he' => ?_).bind fun _ =>
          (steady_later.keeps_enlist _ _ _).bind fun _ =>
            keeps_insertSlots (fun slot => keeps_insertSlot e.next slot ms) slots) e he
      · exact { he' with next := Nat.le_succ_of_le he.next }
      · exact he'.record he.next
  | null | bool | int | float | str | arr => exact Attempt.keeps_throw _

theorem keeps_insertSlot (handle : Nat) (slot : Slot) (ms : List (String × Json)) :
    Keeps (Later e₀) (insertSlot handle slot ms) := by
  cases ms with
  | nil => exact steady_later.keeps_putList _ _
  | cons m ms =>
      obtain ⟨name, v⟩ := m
      rw [insertSlot]
      split
      · exact (steady_later.keeps_putList _ _).bind fun _ => keeps_insertChildren _ v
      · exact keeps_insertSlot handle slot ms

theorem keeps_insertChildren (place : Place) (v : Json) :
    Keeps (Later e₀) (insertChildren place v) := by
  cases v with
  | arr vs => exact keeps_insertAll place vs
  | str | obj => exact Attempt.keeps_pure _
  | null | bool | int | float =>
      rw [insertChildren]
      · split
        · exact Attempt.keeps_throw _
        · exact Attempt.keeps_pure _
      all_goals simp

theorem keeps_insertAll (place : Place) (vs : List Json) :
    Keeps (Later e₀) (insertAll place vs) := by
  cases vs with
  | nil => exact Attempt.keeps_pure _
  | cons v vs =>
      cases hobject : v.isObject with
      | false =>
          rw [insertAll_of_other hobject]
          exact keeps_insertAll place vs
      | true =>
          rw [insertAll_of_object hobject]
          exact (keeps_insert place .last v).bind fun _ => keeps_insertAll place vs

end

theorem keeps_updateAll (handle : Nat) (changes : Entries Json) :
    Keeps (Later e₀) (updateAll handle changes) := by
  induction changes with
  | nil => exact Attempt.keeps_pure _
  | cons change changes ih =>
      obtain ⟨name, value⟩ := change
      refine Keeps.bind ?_ fun _ => ih
      rw [updateOne]
      split
      · exact Attempt.keeps_throw _
      · refine Attempt.keeps_get_bind fun e he => ?_
        simp only
        split
        · exact he
        · exact he.modifyLive handle fun _ => rfl

theorem keeps_add (raw : Json) (parent : Option Int) (slot : Json) (position : Position) :
    Keeps (Later e₀) (add raw parent slot position) := by
  rw [add]
  split
  · exact Attempt.keeps_throw _
  · refine Attempt.keeps_get_bind fun e he => ?_
    exact (Attempt.keeps_lift _).bind (fun place => (keeps_insert place position raw).bind fun _ =>
      steady_later.keeps_touch.bind fun _ => Attempt.keeps_pure _) e he

theorem keeps_update (handle : Int) (changes : Entries Json) :
    Keeps (Later e₀) (update handle changes) := by
  rw [update]
  split
  · exact Attempt.keeps_throw _
  · refine Attempt.keeps_get_bind fun e he => ?_
    exact (Attempt.keeps_lift _).bind (fun (item : Live) =>
      (keeps_updateAll item.handle changes).bind fun _ => steady_later.keeps_touch) e he

theorem keeps_select (handle : Option Int) : Keeps (Later e₀) (select handle) := by
  cases handle with
  | none => exact Attempt.keeps_modify fun _ he => he.of_live rfl rfl (Nat.le_refl _)
  | some handle =>
      refine Attempt.keeps_get_bind fun e he => ?_
      exact (Attempt.keeps_lift _).bind (fun item => Attempt.keeps_modify fun _ he' =>
        he'.of_live rfl rfl (Nat.le_refl _)) e he

/-- **A change gives no handle again.** -/
theorem Edit.later_after (edit : Edit) (h : Later e₀ e) : Later e₀ (edit.after e) := by
  refine (?_ : Keeps (Later e₀) edit.attempt) e h
  cases edit with
  | add raw parent slot position =>
      exact (keeps_add raw parent slot position).bind fun _ => Attempt.keeps_pure _
  | update handle attributes => exact keeps_update handle attributes
  | remove handle => exact steady_later.keeps_remove handle
  | move handle parent slot position =>
      exact steady_later.keeps_move handle parent slot position
  | select handle => exact keeps_select handle

theorem later_after (edits : List Edit) (h : Later e₀ e) : Later e₀ (after edits e) := by
  induction edits generalizing e with
  | nil => exact h
  | cons edit edits ih => exact ih (edit.later_after h)

end Questionnaire.Editor
