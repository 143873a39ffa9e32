/-
Trees side by side, and trees that stand nowhere.

What is under work is a row of trees at the top level.  A tree can also be cut loose: it was taken
out of its list, or was never put into one, and is still there.  `Woods` are both.  `ListAt` says
which trees make up the list at a place, and `edit` changes that list.  A change leaves every
other list with the handles it had, `listAt_edit`, and what all nodes are labelled with changes
only by what goes out and what comes in, `perm_edit`.
-/
import Questionnaire.Proofs.Editor.Tree

namespace Questionnaire.Editor

open Questionnaire.Editor.Tree

/-- Trees at the top level, and trees that stand nowhere. -/
structure Woods where
  roots : List Tree
  loose : List Tree

namespace Woods

def all (w : Woods) : List Tree := w.roots ++ w.loose

def nodes (w : Woods) : List Tree := allNodes w.all

def handles (w : Woods) : List Nat := allHandles w.all

def labels (w : Woods) : List (Nat × Entries Json) := allLabels w.all

/-- The same with more trees that stand nowhere. -/
def aside (w : Woods) (ts : List Tree) : Woods := ⟨w.roots, w.loose ++ ts⟩

/-- The trees that make up the list at a place. -/
inductive ListAt (w : Woods) : Place → List Tree → Prop
  | top : ListAt w .top w.roots
  | inside {n : Tree} (hn : n ∈ w.nodes) (slot : Slot) :
    ListAt w ⟨some n.handle, slot⟩ (n.inside slot)

/-- The list at a place belongs to the top level or to a node in a slot of its type. -/
def Open (w : Woods) (place : Place) : Prop :=
  place = .top ∨ ∃ l ∈ w.labels, ∃ slot ∈ Slot.ofAttributes l.2, place = ⟨some l.1, slot⟩

/-- Trees side by side with the list at a place changed. -/
def editAt (place : Place) (f : List Tree → List Tree) (ts : List Tree) : List Tree :=
  match place.parent with
  | none => f ts
  | some p => editAll p place.slot f ts

/-- The same with the list at a place changed. -/
def edit (w : Woods) (place : Place) (f : List Tree → List Tree) : Woods :=
  ⟨editAt place f w.roots, if place.parent.isSome then editAt place f w.loose else w.loose⟩

variable {w w' : Woods} {place other : Place} {ts us : List Tree} {n t : Tree} {h : Nat}

@[simp] theorem edit_top (w : Woods) (f : List Tree → List Tree) :
    w.edit .top f = ⟨f w.roots, w.loose⟩ := rfl

@[simp] theorem edit_inside (w : Woods) (p : Nat) (slot : Slot) (f : List Tree → List Tree) :
    w.edit ⟨some p, slot⟩ f = ⟨editAll p slot f w.roots, editAll p slot f w.loose⟩ := rfl

theorem all_edit_inside (w : Woods) (p : Nat) (slot : Slot) (f : List Tree → List Tree) :
    (w.edit ⟨some p, slot⟩ f).all = editAll p slot f w.all := by
  rw [edit_inside, all, all, editAll_append]

/-- A change of a list leaves as many trees that stand nowhere as there were. -/
theorem loose_edit_eq_nil (w : Woods) (place : Place) (f : List Tree → List Tree) :
    (w.edit place f).loose = [] ↔ w.loose = [] := by
  obtain ⟨parent, slot⟩ := place
  cases parent with
  | none => exact Iff.rfl
  | some p =>
      show editAll p slot f w.loose = [] ↔ w.loose = []
      rw [editAll_eq_map, List.map_eq_nil_iff]

theorem edit_roots (roots : List Tree) (place : Place) (f : List Tree → List Tree) :
    Woods.edit ⟨roots, []⟩ place f = ⟨editAt place f roots, []⟩ := by
  obtain ⟨parent, slot⟩ := place
  cases parent <;> rfl

theorem nodes_roots (roots : List Tree) : Woods.nodes ⟨roots, []⟩ = allNodes roots := by
  rw [nodes, all, List.append_nil]

theorem map_fst_labels (w : Woods) : w.labels.map Prod.fst = w.handles := map_fst_allLabels _

theorem labels_aside (w : Woods) (ts : List Tree) :
    (w.aside ts).labels = w.labels ++ allLabels ts := by
  rw [labels, all, aside, ← List.append_assoc, allLabels_append, labels, all]

theorem handles_aside (w : Woods) (ts : List Tree) :
    (w.aside ts).handles = w.handles ++ allHandles ts := by
  rw [handles, all, aside, ← List.append_assoc, allHandles_append, handles, all]

theorem nodes_aside (w : Woods) (ts : List Tree) : (w.aside ts).nodes = w.nodes ++ allNodes ts := by
  rw [nodes, all, aside, ← List.append_assoc, allNodes_append, nodes, all]

theorem nodup_of_aside (hnodup : (w.aside ts).handles.Nodup) : w.handles.Nodup := by
  rw [handles_aside] at hnodup
  exact hnodup.of_append_left

theorem mem_nodes_aside (w : Woods) (t : Tree) : t ∈ (w.aside [t]).nodes := by
  rw [nodes_aside, allNodes_singleton]
  exact List.mem_append_right _ (self_mem_nodes t)

theorem handle_mem_handles (hn : n ∈ w.nodes) : n.handle ∈ w.handles := List.mem_map_of_mem hn

theorem fst_mem_handles {l : Nat × Entries Json} (hl : l ∈ w.labels) : l.1 ∈ w.handles := by
  rw [← map_fst_labels]
  exact List.mem_map_of_mem hl

theorem label_mem_labels (hn : n ∈ w.nodes) : n.label ∈ w.labels := List.mem_map_of_mem hn

theorem exists_node (hh : h ∈ w.handles) : ∃ n ∈ w.nodes, n.handle = h := List.mem_map.mp hh

theorem handles_perm (hperm : w.labels.Perm w'.labels) : w.handles.Perm w'.handles := by
  rw [← map_fst_labels, ← map_fst_labels]
  exact hperm.map Prod.fst

theorem Open.mono (hopen : w.Open place) (hsub : ∀ l ∈ w.labels, l ∈ w'.labels) :
    w'.Open place := by
  rcases hopen with rfl | ⟨l, hl, hslot⟩
  · exact Or.inl rfl
  · exact Or.inr ⟨l, hsub l hl, hslot⟩

/-- An open place has a list. -/
theorem Open.listAt (hopen : w.Open place) : ∃ ts, w.ListAt place ts := by
  rcases hopen with rfl | ⟨l, hl, slot, -, rfl⟩
  · exact ⟨w.roots, .top⟩
  · obtain ⟨n, hn, rfl⟩ := List.mem_map.mp hl
    exact ⟨n.inside slot, .inside hn slot⟩

/-! ### Lists -/

/-- What stands in a list is a node. -/
theorem ListAt.nodes_subset (hlist : w.ListAt place ts) : ∀ n ∈ allNodes ts, n ∈ w.nodes := by
  intro n hn
  cases hlist with
  | top =>
      rw [nodes, all, allNodes_append]
      exact List.mem_append_left _ hn
  | inside hp slot => exact allNodes_trans _ hp n (allNodes_subset_nodes _ slot n hn)

theorem ListAt.mem_nodes (hlist : w.ListAt place ts) (ht : t ∈ ts) : t ∈ w.nodes :=
  hlist.nodes_subset t (mem_allNodes.mpr ⟨t, ht, self_mem_nodes t⟩)

theorem ListAt.owner_mem (hlist : w.ListAt place ts) (howner : place.parent = some h) :
    h ∈ w.handles := by
  cases hlist with
  | top => cases howner
  | inside hn slot =>
      cases howner
      exact handle_mem_handles hn

/-- The node that owns a list stands in none of the trees that make it up. -/
theorem ListAt.owner_notMem (hnodup : w.handles.Nodup) (hlist : w.ListAt place ts)
    (howner : place.parent = some h) : h ∉ allHandles ts := by
  cases hlist with
  | top => cases howner
  | inside hn slot =>
      cases howner
      exact handle_notMem_inside (nodup_of_mem_allNodes hnodup _ hn) slot

theorem ListAt.nodup (hnodup : w.handles.Nodup) (hlist : w.ListAt place ts) :
    (allHandles ts).Nodup := by
  cases hlist with
  | top =>
      rw [handles, all, allHandles_append] at hnodup
      exact hnodup.of_append_left
  | inside hn slot => exact nodup_inside (nodup_of_mem_allNodes hnodup _ hn) slot

theorem ListAt.nodup_handles (hnodup : w.handles.Nodup) (hlist : w.ListAt place ts) :
    (ts.map handle).Nodup := (map_handle_sublist ts).nodup (hlist.nodup hnodup)

/-- A node stands in a list, or it stands nowhere. -/
theorem listed_or_loose (hn : n ∈ w.nodes) :
    (∃ place ts, w.ListAt place ts ∧ n ∈ ts) ∨ n ∈ w.loose := by
  rcases mem_or_inside hn with hn | ⟨m, hm, slot, hn⟩
  · rcases List.mem_append.mp hn with hn | hn
    · exact Or.inl ⟨_, _, .top, hn⟩
    · exact Or.inr hn
  · exact Or.inl ⟨_, _, .inside hm slot, hn⟩

/-- A tree that stands nowhere is in no list. -/
theorem loose_notMem (hnodup : w.handles.Nodup) (ht : t ∈ w.loose) (hlist : w.ListAt place ts) :
    t.handle ∉ ts.map handle := by
  intro hmem
  have hmem' := map_handle_subset ts _ hmem
  cases hlist with
  | top =>
      rw [handles, all, allHandles_append] at hnodup
      exact List.disjoint_of_nodup_append hnodup hmem'
        (mem_allHandles.mpr ⟨t, ht, Tree.handle_mem_handles t⟩)
  | inside hn slot => exact side_notMem_inside hnodup (List.mem_append_right _ ht) hn slot hmem'

/-! ### Changing a list -/

/-- What the nodes are labelled with after a change of a list. -/
theorem perm_edit (hnodup : w.handles.Nodup) (hlist : w.ListAt place ts)
    (f : List Tree → List Tree) :
    ((w.edit place f).labels ++ allLabels ts).Perm (w.labels ++ allLabels (f ts)) := by
  cases hlist with
  | top =>
      rw [edit_top, labels, labels, all, all, allLabels_append, allLabels_append,
        List.append_assoc]
      exact List.perm_append_comm.trans
        ((List.perm_append_comm.append_right _).trans (by rw [List.append_assoc]))
  | inside hn slot =>
      rw [labels, all_edit_inside]
      exact perm_editAll hnodup hn slot f

/-- **A change of the list at a place leaves every other list with the handles it had,** save for
the lists of nodes that came in with the change. -/
theorem listAt_edit (hnodup : w.handles.Nodup) (hlist : w.ListAt place ts)
    (f : List Tree → List Tree) (hedit : (w.edit place f).ListAt other us) :
    (other = place ∧ us = f ts) ∨
      (other ≠ place ∧ ∃ us', w.ListAt other us' ∧ us.map handle = us'.map handle) ∨
      ∃ n ∈ allNodes (f ts), ∃ slot, other = ⟨some n.handle, slot⟩ ∧ us = n.inside slot := by
  cases hlist with
  | top =>
      cases hedit with
      | top => exact Or.inl ⟨rfl, rfl⟩
      | @inside m hm slot =>
          rw [edit_top, nodes, all, allNodes_append, List.mem_append] at hm
          rcases hm with hm | hm
          · exact Or.inr (Or.inr ⟨_, hm, slot, rfl, rfl⟩)
          · have hm' : m ∈ w.nodes := by
              rw [nodes, all, allNodes_append]
              exact List.mem_append_right _ hm
            exact Or.inr (Or.inl ⟨by rintro ⟨⟩, _, .inside hm' slot, rfl⟩)
  | @inside p hp slot =>
      cases hedit with
      | top =>
          refine Or.inr (Or.inl ⟨by rintro ⟨⟩, w.roots, .top, ?_⟩)
          exact map_handle_editAll _ _ _ _
      | inside hm s =>
          rw [nodes, all_edit_inside] at hm
          rcases of_mem_allNodes_editAll hnodup hm with ⟨n, hn, rfl⟩ | ⟨n, hn, hhandle, hm⟩
          · rw [handle_edit]
            by_cases hnp : n.handle = p.handle
            · rw [← hnp, inside_edit_self]
              have hsame : n = p := eq_of_handle_eq hnodup hn hp hnp
              by_cases hs : s = slot
              · rw [if_pos hs, hsame, hs]
                exact Or.inl ⟨rfl, rfl⟩
              · rw [if_neg hs]
                refine Or.inr (Or.inl ⟨fun heq => hs (Place.mk.inj heq).2, _, .inside hn s, rfl⟩)
            · rw [inside_edit_of_ne hnp, map_handle_editAll]
              refine Or.inr (Or.inl ⟨fun heq => hnp ?_, _, .inside hn s, rfl⟩)
              exact Option.some.inj (Place.mk.inj heq).1
          · rw [eq_of_handle_eq hnodup hn hp hhandle] at hm
            exact Or.inr (Or.inr ⟨_, hm, s, rfl, rfl⟩)

/-- What is cancelled when a part of a list is exchanged for another. -/
theorem perm_of_exchange {α : Type} {a b t f u v : List α} (h : (a ++ t).Perm (b ++ f))
    (hexchange : (f ++ v).Perm (t ++ u)) : (a ++ v).Perm (b ++ u) := by
  -- Appending cannot be cancelled in the middle; counting each element leaves sums.
  classical
  rw [List.perm_iff_count] at h hexchange ⊢
  intro x
  have hx := h x
  have hx' := hexchange x
  simp only [List.count_append] at hx hx' ⊢
  omega

/-! ### Exchanging trees between a list and those that stand nowhere -/

variable {vs : List Tree} {f : List Tree → List Tree}

theorem ListAt.aside (hlist : w.ListAt place ts) (us : List Tree) :
    (w.aside us).ListAt place ts := by
  cases hlist with
  | top => exact .top
  | inside hn slot => exact .inside (by rw [nodes_aside]; exact List.mem_append_left _ hn) slot

theorem Open.aside (hopen : w.Open place) (us : List Tree) : (w.aside us).Open place :=
  hopen.mono fun _ hl => by
    rw [labels_aside]
    exact List.mem_append_left _ hl

/-- What is open and not inside the trees that were put aside is open without them. -/
theorem Open.of_aside (hopen : (w.aside us).Open place)
    (hout : ∀ p, place.parent = some p → p ∉ allHandles us) : w.Open place := by
  rcases hopen with rfl | ⟨l, hl, slot, hslot, rfl⟩
  · exact Or.inl rfl
  · rw [labels_aside, List.mem_append] at hl
    rcases hl with hl | hl
    · exact Or.inr ⟨l, hl, slot, hslot, rfl⟩
    · refine absurd ?_ (hout l.1 rfl)
      rw [← map_fst_allLabels]
      exact List.mem_map_of_mem hl

theorem listAt_of_aside (hlist : (w.aside vs).ListAt place ts) :
    w.ListAt place ts ∨
      ∃ n ∈ allNodes vs, ∃ slot, place = ⟨some n.handle, slot⟩ ∧ ts = n.inside slot := by
  cases hlist with
  | top => exact Or.inl .top
  | inside hn slot =>
      rw [nodes_aside, List.mem_append] at hn
      rcases hn with hn | hn
      · exact Or.inl (.inside hn slot)
      · exact Or.inr ⟨_, hn, slot, rfl, rfl⟩

/-- Where trees are exchanged between the list at a place and those that stand nowhere, the nodes
stay the same. -/
theorem perm_exchange (hnodup : w.handles.Nodup) (hlist : w.ListAt place ts)
    (hperm : (f ts ++ vs).Perm (ts ++ us)) :
    ((w.edit place f).aside vs).labels.Perm (w.aside us).labels := by
  have hlabels := (allNodes_perm hperm).map label
  rw [allNodes_append, allNodes_append, List.map_append, List.map_append] at hlabels
  rw [labels_aside, labels_aside]
  exact perm_of_exchange (perm_edit hnodup hlist f) hlabels

/-- A list that only grows brings its new nodes in. -/
theorem labels_edit_of_perm (hnodup : w.handles.Nodup) (hlist : w.ListAt place ts)
    (hperm : (f ts).Perm (ts ++ us)) :
    (w.edit place f).labels.Perm (w.labels ++ allLabels us) := by
  rw [← List.append_nil (f ts)] at hperm
  have hlabels := perm_exchange hnodup hlist hperm
  rwa [labels_aside, labels_aside, allLabels_nil, List.append_nil] at hlabels

/-- What is open stays open where a list only grows. -/
theorem Open.edit_of_perm (hopen : w.Open other) (hnodup : w.handles.Nodup)
    (hlist : w.ListAt place ts) (hperm : (f ts).Perm (ts ++ us)) : (w.edit place f).Open other :=
  hopen.mono fun _ hl =>
    (labels_edit_of_perm hnodup hlist hperm).mem_iff.mpr (List.mem_append_left _ hl)

/-- **Where trees are exchanged between the list at a place and those that stand nowhere, every
other list keeps the handles it had.** -/
theorem listAt_exchange (hnodup : (w.aside us).handles.Nodup) (hlist : w.ListAt place ts)
    (hperm : (f ts ++ vs).Perm (ts ++ us)) {vs' : List Tree}
    (hother : ((w.edit place f).aside vs).ListAt other vs') :
    (other = place ∧ vs' = f ts) ∨
      (other ≠ place ∧ ∃ us', (w.aside us).ListAt other us' ∧ vs'.map handle = us'.map handle) := by
  rw [handles_aside] at hnodup
  -- The node that owns the list is in none of the trees that are exchanged.
  have howner : ∀ n ∈ allNodes (ts ++ us), ∀ slot, (⟨some n.handle, slot⟩ : Place) ≠ place := by
    rintro n hn slot rfl
    rw [allNodes_append, List.mem_append] at hn
    rcases hn with hn | hn
    · exact hlist.owner_notMem hnodup.of_append_left rfl (List.mem_map_of_mem hn)
    · exact List.disjoint_of_nodup_append hnodup (hlist.owner_mem rfl) (List.mem_map_of_mem hn)
  have hsame : ∀ n ∈ allNodes (f ts ++ vs), ∀ slot, other = ⟨some n.handle, slot⟩ →
      vs' = n.inside slot →
      other ≠ place ∧ ∃ us', (w.aside us).ListAt other us' ∧ vs'.map handle = us'.map handle := by
    rintro n hn slot rfl rfl
    have hn' := (allNodes_perm hperm).mem_iff.mp hn
    refine ⟨howner n hn' slot, _, .inside ?_ slot, rfl⟩
    rw [nodes_aside, List.mem_append]
    rw [allNodes_append, List.mem_append] at hn'
    exact hn'.imp_left (hlist.nodes_subset n)
  rcases listAt_of_aside hother with hother | ⟨n, hn, slot, hplace, hvs⟩
  · rcases listAt_edit hnodup.of_append_left hlist f hother with
      hhere | ⟨hne, us', hus, hhandles⟩ | ⟨n, hn, slot, hplace, hvs⟩
    · exact Or.inl hhere
    · exact Or.inr ⟨hne, us', hus.aside us, hhandles⟩
    · refine Or.inr (hsame n ?_ slot hplace hvs)
      rw [allNodes_append]
      exact List.mem_append_left _ hn
  · refine Or.inr (hsame n ?_ slot hplace hvs)
    rw [allNodes_append]
    exact List.mem_append_right _ hn

/-! ### One change after another -/

/-- Two changes of the list at a place are one. -/
theorem edit_edit (w : Woods) (place : Place) (f g : List Tree → List Tree) :
    (w.edit place f).edit place g = w.edit place fun ts => g (f ts) := by
  obtain ⟨parent, slot⟩ := place
  cases parent with
  | none => rfl
  | some p => simp only [edit, editAt, Option.isSome_some, if_true, editAll_editAll]

theorem edit_id (w : Woods) (place : Place) : w.edit place id = w := by
  obtain ⟨parent, slot⟩ := place
  cases parent with
  | none => rfl
  | some p => rw [edit_inside, editAll_id, editAll_id]

@[simp] theorem aside_nil (w : Woods) : w.aside [] = w := by
  rw [aside, List.append_nil]

end Woods

end Questionnaire.Editor
