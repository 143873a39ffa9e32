/-
Trees of items.

An item under work and all that it holds form a tree.  Every node of it is itself a tree, and has
a handle, the attributes of its item, and the trees in each slot.  A tree is changed by `edit`,
which changes what one node holds in one slot and touches nothing else: where the node is not in
the tree nothing is changed, and what every node is labelled with, `label`, goes out and comes in
with what is taken out of the slot and what is put into it, `perm_editAll`.
-/
import Questionnaire.Editor.Edit
import Mathlib.Data.List.Nodup

namespace Questionnaire.Editor

/-- An item under work with all that it holds. -/
inductive Tree
  | node (handle : Nat) (attributes : Entries Json) (inside : Slot → List Tree)

namespace Tree

def handle : Tree → Nat
  | .node handle _ _ => handle

def attributes : Tree → Entries Json
  | .node _ attributes _ => attributes

/-- The trees in a slot. -/
def inside : Tree → Slot → List Tree
  | .node _ _ inside => inside

/-! ### Nodes -/

mutual

/-- The nodes of a tree in reading order, each with all that it holds. -/
def nodes : Tree → List Tree
  | .node handle attributes inside =>
    .node handle attributes inside :: Slot.all.flatMap fun slot => allNodes (inside slot)

/-- The nodes of trees that stand side by side. -/
def allNodes : List Tree → List Tree
  | [] => []
  | t :: ts => nodes t ++ allNodes ts

end

def handles (t : Tree) : List Nat := t.nodes.map handle

def allHandles (ts : List Tree) : List Nat := (allNodes ts).map handle

/-- What the node says of itself: its handle and its attributes. -/
def label (t : Tree) : Nat × Entries Json := (t.handle, t.attributes)

def allLabels (ts : List Tree) : List (Nat × Entries Json) := (allNodes ts).map label

variable {t n : Tree} {ts us : List Tree} {k p x : Nat} {slot : Slot}

theorem allNodes_append (ts us : List Tree) : allNodes (ts ++ us) = allNodes ts ++ allNodes us := by
  induction ts with
  | nil => rfl
  | cons t ts ih => rw [List.cons_append, allNodes, allNodes, ih, List.append_assoc]

theorem allNodes_eq_flatMap (ts : List Tree) : allNodes ts = ts.flatMap nodes := by
  induction ts with
  | nil => rfl
  | cons t ts ih => rw [allNodes, ih, List.flatMap_cons]

theorem allNodes_perm (h : ts.Perm us) : (allNodes ts).Perm (allNodes us) := by
  rw [allNodes_eq_flatMap, allNodes_eq_flatMap]
  exact h.flatMap_right nodes

theorem mem_allNodes : n ∈ allNodes ts ↔ ∃ t ∈ ts, n ∈ t.nodes := by
  induction ts with
  | nil => simp [allNodes]
  | cons t ts ih => rw [allNodes, List.mem_append, ih, List.exists_mem_cons_iff]

theorem nodes_eq (t : Tree) :
    t.nodes = t :: Slot.all.flatMap fun slot => allNodes (t.inside slot) := by
  cases t with
  | node handle attributes inside => rw [nodes]; rfl

theorem self_mem_nodes (t : Tree) : t ∈ t.nodes := by
  rw [nodes_eq]
  exact List.mem_cons_self

theorem mem_nodes : n ∈ t.nodes ↔ n = t ∨ ∃ slot, n ∈ allNodes (t.inside slot) := by
  have hall : ∀ slot : Slot, slot ∈ Slot.all := by
    intro slot
    cases slot <;> decide
  rw [nodes_eq, List.mem_cons, List.mem_flatMap]
  exact or_congr_right ⟨fun ⟨slot, _, h⟩ => ⟨slot, h⟩, fun ⟨slot, h⟩ => ⟨slot, hall slot, h⟩⟩

theorem allNodes_subset_nodes (t : Tree) (slot : Slot) :
    ∀ n ∈ allNodes (t.inside slot), n ∈ t.nodes :=
  fun _ hn => mem_nodes.mpr (Or.inr ⟨slot, hn⟩)

theorem allNodes_singleton (t : Tree) : allNodes [t] = t.nodes := List.append_nil _

@[simp] theorem allHandles_nil : allHandles [] = [] := rfl

theorem allHandles_singleton (t : Tree) : allHandles [t] = t.handles := by
  rw [allHandles, allNodes_singleton, handles]

@[simp] theorem allHandles_cons (t : Tree) (ts : List Tree) :
    allHandles (t :: ts) = t.handles ++ allHandles ts := by
  rw [allHandles, allNodes, List.map_append, handles, allHandles]

@[simp] theorem allHandles_append (ts us : List Tree) :
    allHandles (ts ++ us) = allHandles ts ++ allHandles us := by
  rw [allHandles, allNodes_append, List.map_append, allHandles, allHandles]

@[simp] theorem allLabels_nil : allLabels [] = [] := rfl

@[simp] theorem allLabels_append (ts us : List Tree) :
    allLabels (ts ++ us) = allLabels ts ++ allLabels us := by
  rw [allLabels, allNodes_append, List.map_append, allLabels, allLabels]

theorem map_fst_allLabels (ts : List Tree) : (allLabels ts).map Prod.fst = allHandles ts := by
  rw [allLabels, List.map_map]
  rfl

theorem mem_allHandles : x ∈ allHandles ts ↔ ∃ t ∈ ts, x ∈ t.handles := by
  simp only [allHandles, handles, List.mem_map, mem_allNodes]
  exact ⟨fun ⟨n, ⟨t, ht, hn⟩, hx⟩ => ⟨t, ht, n, hn, hx⟩,
    fun ⟨t, ht, n, hn, hx⟩ => ⟨n, ⟨t, ht, hn⟩, hx⟩⟩

theorem handles_eq (t : Tree) :
    t.handles = t.handle :: (allHandles (t.inside .items) ++ allHandles (t.inside .yes) ++
      allHandles (t.inside .no)) := by
  rw [handles, nodes_eq]
  simp [Slot.all, allHandles]

theorem handle_mem_handles (t : Tree) : t.handle ∈ t.handles := by
  rw [handles_eq]
  exact List.mem_cons_self

theorem allHandles_subset_handles (t : Tree) (slot : Slot) :
    ∀ x ∈ allHandles (t.inside slot), x ∈ t.handles := by
  intro x hx
  obtain ⟨n, hn, hnx⟩ := List.mem_map.mp hx
  exact List.mem_map.mpr ⟨n, allNodes_subset_nodes t slot n hn, hnx⟩

/-- What the nodes are marked with, counted slot by slot. -/
theorem count_nodes {α : Type} [DecidableEq α] (φ : Tree → α) (t : Tree) (x : α) :
    (t.nodes.map φ).count x = [φ t].count x + ((allNodes (t.inside .items)).map φ).count x +
      ((allNodes (t.inside .yes)).map φ).count x + ((allNodes (t.inside .no)).map φ).count x := by
  rw [nodes_eq]
  simp only [Slot.all, List.flatMap_cons, List.flatMap_nil, List.map_cons, List.map_append,
    List.map_nil, List.count_cons, List.count_append, List.count_nil]
  omega

theorem count_handles (t : Tree) (x : Nat) :
    t.handles.count x = [t.handle].count x + (allHandles (t.inside .items)).count x +
      (allHandles (t.inside .yes)).count x + (allHandles (t.inside .no)).count x :=
  count_nodes handle t x

mutual

/-- The nodes of a node are nodes. -/
theorem nodes_trans {t : Tree} : ∀ n ∈ t.nodes, ∀ m ∈ n.nodes, m ∈ t.nodes := by
  cases t with
  | node handle attributes inside =>
      intro n hn m hm
      rcases mem_nodes.mp hn with rfl | ⟨slot, hn⟩
      · exact hm
      · exact allNodes_subset_nodes _ slot m (@allNodes_trans (inside slot) n hn m hm)

theorem allNodes_trans {ts : List Tree} : ∀ n ∈ allNodes ts, ∀ m ∈ n.nodes, m ∈ allNodes ts := by
  cases ts with
  | nil => exact fun n hn => nomatch hn
  | cons t ts =>
      intro n hn m hm
      rw [allNodes, List.mem_append] at hn ⊢
      rcases hn with hn | hn
      · exact Or.inl (nodes_trans n hn m hm)
      · exact Or.inr (allNodes_trans n hn m hm)

end

theorem handles_subset_of_mem_nodes (hn : n ∈ t.nodes) : ∀ x ∈ n.handles, x ∈ t.handles := by
  intro x hx
  obtain ⟨m, hm, hmx⟩ := List.mem_map.mp hx
  exact List.mem_map.mpr ⟨m, nodes_trans n hn m hm, hmx⟩

theorem handles_subset_of_mem (hn : n ∈ allNodes ts) : ∀ x ∈ n.handles, x ∈ allHandles ts := by
  intro x hx
  obtain ⟨m, hm, hmx⟩ := List.mem_map.mp hx
  exact List.mem_map.mpr ⟨m, allNodes_trans n hn m hm, hmx⟩

theorem map_handle_sublist (ts : List Tree) : (ts.map handle).Sublist (allHandles ts) := by
  induction ts with
  | nil => exact .slnil
  | cons t ts ih =>
      rw [allHandles_cons, handles_eq]
      exact ((List.nil_sublist _).cons_cons t.handle).append ih

theorem map_handle_subset (ts : List Tree) : ∀ x ∈ ts.map handle, x ∈ allHandles ts :=
  fun _ hx => (map_handle_sublist ts).subset hx

/-! ### Handles that are given once -/

theorem nodup_inside (h : t.handles.Nodup) (slot : Slot) : (allHandles (t.inside slot)).Nodup := by
  rw [List.nodup_iff_count_le_one] at h ⊢
  intro x
  have hx := h x
  rw [count_handles] at hx
  cases slot <;> omega

theorem handle_notMem_inside (h : t.handles.Nodup) (slot : Slot) :
    t.handle ∉ allHandles (t.inside slot) := by
  intro hmem
  have hx := List.nodup_iff_count_le_one.mp h t.handle
  have hpos := List.count_pos_iff.mpr hmem
  rw [count_handles, List.count_singleton_self] at hx
  cases slot <;> omega

/-- The top of a tree stands inside none of its nodes. -/
theorem top_notMem_inside (h : t.handles.Nodup) (hn : n ∈ t.nodes) (slot : Slot) :
    t.handle ∉ allHandles (n.inside slot) := by
  rcases mem_nodes.mp hn with rfl | ⟨r, hr⟩
  · exact handle_notMem_inside h slot
  · intro hmem
    refine handle_notMem_inside h r ?_
    exact handles_subset_of_mem hr _ (allHandles_subset_handles n slot _ hmem)

theorem disjoint_inside (h : t.handles.Nodup) {slot other : Slot} (hne : slot ≠ other)
    (hmem : x ∈ allHandles (t.inside slot)) : x ∉ allHandles (t.inside other) := by
  intro hmem'
  have hx := List.nodup_iff_count_le_one.mp h x
  have hpos := List.count_pos_iff.mpr hmem
  have hpos' := List.count_pos_iff.mpr hmem'
  rw [count_handles] at hx
  cases slot <;> cases other <;> first | exact hne rfl | omega

mutual

theorem nodup_of_mem_nodes {t : Tree} (h : t.handles.Nodup) : ∀ n ∈ t.nodes, n.handles.Nodup := by
  cases t with
  | node handle attributes inside =>
      intro n hn
      rcases mem_nodes.mp hn with rfl | ⟨slot, hn⟩
      · exact h
      · have hinside : (allHandles (inside slot)).Nodup := nodup_inside h slot
        exact nodup_of_mem_allNodes hinside n hn

theorem nodup_of_mem_allNodes {ts : List Tree} (h : (allHandles ts).Nodup) :
    ∀ n ∈ allNodes ts, n.handles.Nodup := by
  cases ts with
  | nil => exact fun n hn => nomatch hn
  | cons t ts =>
      intro n hn
      rw [allHandles_cons] at h
      rw [allNodes, List.mem_append] at hn
      rcases hn with hn | hn
      · exact nodup_of_mem_nodes h.of_append_left n hn
      · exact nodup_of_mem_allNodes h.of_append_right n hn

end

/-- What stands side by side stands inside none of the nodes. -/
theorem side_notMem_inside (h : (allHandles ts).Nodup) (ht : t ∈ ts) (hn : n ∈ allNodes ts)
    (slot : Slot) : t.handle ∉ allHandles (n.inside slot) := by
  obtain ⟨front, back, rfl⟩ := List.append_of_mem ht
  rw [allNodes_append, allNodes, List.mem_append, List.mem_append] at hn
  rw [allHandles_append, allHandles_cons] at h
  intro hmem
  have hdisjoint := List.disjoint_of_nodup_append h
  rcases hn with hn | hn | hn
  · refine hdisjoint (handles_subset_of_mem hn _ (allHandles_subset_handles n slot _ hmem)) ?_
    exact List.mem_append_left _ (handle_mem_handles t)
  · exact top_notMem_inside h.of_append_right.of_append_left hn slot hmem
  · refine List.disjoint_of_nodup_append h.of_append_right (handle_mem_handles t) ?_
    exact handles_subset_of_mem hn _ (allHandles_subset_handles n slot _ hmem)

/-! ### From the top down -/

mutual

theorem forall_nodes {P : Tree → Prop} {t : Tree} (ht : P t)
    (hstep : ∀ n ∈ t.nodes, P n → ∀ slot, ∀ c ∈ n.inside slot, P c) : ∀ n ∈ t.nodes, P n := by
  cases t with
  | node handle attributes inside =>
      intro n hn
      rcases mem_nodes.mp hn with rfl | ⟨slot, hn⟩
      · exact ht
      · have hinside : ∀ c ∈ inside slot, P c := fun c hc =>
          hstep _ (self_mem_nodes _) ht slot c hc
        refine forall_allNodes hinside (fun m hm => hstep m ?_) n hn
        exact allNodes_subset_nodes (.node handle attributes inside) slot m hm

/-- What holds of the trees themselves, and of what a node holds if it holds of the node, holds of
every node. -/
theorem forall_allNodes {P : Tree → Prop} {ts : List Tree} (hts : ∀ t ∈ ts, P t)
    (hstep : ∀ n ∈ allNodes ts, P n → ∀ slot, ∀ c ∈ n.inside slot, P c) :
    ∀ n ∈ allNodes ts, P n := by
  cases ts with
  | nil => exact fun n hn => nomatch hn
  | cons t ts =>
      intro n hn
      rw [allNodes, List.mem_append] at hn
      rcases hn with hn | hn
      · exact forall_nodes (hts t List.mem_cons_self)
          (fun m hm => hstep m (List.mem_append_left _ hm)) n hn
      · exact forall_allNodes (fun u hu => hts u (List.mem_cons_of_mem t hu))
          (fun m hm => hstep m (List.mem_append_right _ hm)) n hn

end

/-- A node stands among the trees themselves or in a node. -/
theorem mem_or_inside (hn : n ∈ allNodes ts) :
    n ∈ ts ∨ ∃ m ∈ allNodes ts, ∃ slot, n ∈ m.inside slot :=
  forall_allNodes (P := fun n => n ∈ ts ∨ ∃ m ∈ allNodes ts, ∃ slot, n ∈ m.inside slot)
    (fun _ ht => Or.inl ht) (fun m hm _ slot _ hc => Or.inr ⟨m, hm, slot, hc⟩) n hn

/-- A node is told by its handle. -/
theorem eq_of_handle_eq (h : (allHandles ts).Nodup) {m : Tree} (hn : n ∈ allNodes ts)
    (hm : m ∈ allNodes ts) (heq : n.handle = m.handle) : n = m :=
  List.inj_on_of_nodup_map h hn hm heq

/-! ### Changing what a node holds in a slot -/

mutual

/-- The tree with what one node holds in one slot changed. -/
def edit (owner : Nat) (slot : Slot) (f : List Tree → List Tree) : Tree → Tree
  | .node handle attributes inside =>
    .node handle attributes fun s =>
      if handle = owner then if s = slot then f (inside s) else inside s
      else editAll owner slot f (inside s)

/-- The same in trees that stand side by side. -/
def editAll (owner : Nat) (slot : Slot) (f : List Tree → List Tree) : List Tree → List Tree
  | [] => []
  | t :: ts => edit owner slot f t :: editAll owner slot f ts

end

variable {f g : List Tree → List Tree}

@[simp] theorem handle_edit (p : Nat) (slot : Slot) (f : List Tree → List Tree) (t : Tree) :
    (t.edit p slot f).handle = t.handle := by
  cases t
  rfl

@[simp] theorem attributes_edit (p : Nat) (slot : Slot) (f : List Tree → List Tree) (t : Tree) :
    (t.edit p slot f).attributes = t.attributes := by
  cases t
  rfl

theorem inside_edit_self (t : Tree) (slot : Slot) (f : List Tree → List Tree) (s : Slot) :
    (t.edit t.handle slot f).inside s = if s = slot then f (t.inside s) else t.inside s := by
  cases t with
  | node handle attributes inside => simp [edit, Tree.inside, Tree.handle]

theorem inside_edit_of_ne (h : t.handle ≠ p) (slot : Slot) (f : List Tree → List Tree) (s : Slot) :
    (t.edit p slot f).inside s = editAll p slot f (t.inside s) := by
  cases t with
  | node handle attributes inside =>
      have hne : handle ≠ p := h
      simp [edit, Tree.inside, hne]

theorem editAll_eq_map (p : Nat) (slot : Slot) (f : List Tree → List Tree) (ts : List Tree) :
    editAll p slot f ts = ts.map (edit p slot f) := by
  induction ts with
  | nil => rfl
  | cons t ts ih => rw [editAll, ih, List.map_cons]

theorem map_handle_editAll (p : Nat) (slot : Slot) (f : List Tree → List Tree) (ts : List Tree) :
    (editAll p slot f ts).map handle = ts.map handle := by
  rw [editAll_eq_map, List.map_map]
  exact List.map_congr_left fun t _ => handle_edit p slot f t

theorem editAll_append (p : Nat) (slot : Slot) (f : List Tree → List Tree) (ts us : List Tree) :
    editAll p slot f (ts ++ us) = editAll p slot f ts ++ editAll p slot f us := by
  simp only [editAll_eq_map, List.map_append]

mutual

/-- Where the changes of two functions are the same for what is held, so are the trees. -/
theorem edit_congr {t : Tree}
    (h : ∀ n ∈ t.nodes, n.handle = p → f (n.inside slot) = g (n.inside slot)) :
    t.edit p slot f = t.edit p slot g := by
  cases t with
  | node handle attributes inside =>
      rw [edit, edit]
      refine congrArg _ (funext fun s => ?_)
      by_cases hp : handle = p
      · rw [if_pos hp, if_pos hp]
        by_cases hs : s = slot
        · rw [if_pos hs, if_pos hs, hs]
          exact h _ (self_mem_nodes _) hp
        · rw [if_neg hs, if_neg hs]
      · rw [if_neg hp, if_neg hp]
        exact editAll_congr fun n hn =>
          h n (allNodes_subset_nodes (.node handle attributes inside) s n hn)

theorem editAll_congr {ts : List Tree}
    (h : ∀ n ∈ allNodes ts, n.handle = p → f (n.inside slot) = g (n.inside slot)) :
    editAll p slot f ts = editAll p slot g ts := by
  cases ts with
  | nil => rfl
  | cons t ts =>
      rw [allNodes] at h
      rw [editAll, editAll, edit_congr fun n hn => h n (List.mem_append_left _ hn),
        editAll_congr fun n hn => h n (List.mem_append_right _ hn)]

end

mutual

theorem edit_id (p : Nat) (slot : Slot) (t : Tree) : t.edit p slot id = t := by
  cases t with
  | node handle attributes inside =>
      rw [edit]
      refine congrArg _ (funext fun s => ?_)
      by_cases hp : handle = p
      · rw [if_pos hp, id, ite_self]
      · rw [if_neg hp, editAll_id]

theorem editAll_id (p : Nat) (slot : Slot) (ts : List Tree) : editAll p slot id ts = ts := by
  cases ts with
  | nil => rfl
  | cons t ts => rw [editAll, edit_id, editAll_id]

end

/-- Trees in which the node is not are left as they are. -/
theorem editAll_of_notMem (h : p ∉ allHandles ts) (slot : Slot) (f : List Tree → List Tree) :
    editAll p slot f ts = ts := by
  refine (editAll_congr fun n hn hp => ?_).trans (editAll_id p slot ts)
  exact absurd (hp ▸ List.mem_map_of_mem hn) h

/-- So is a tree of which the node is no part. -/
theorem edit_of_notMem (h : p ∉ t.handles) (slot : Slot) (f : List Tree → List Tree) :
    t.edit p slot f = t := by
  have hout : p ∉ allHandles [t] := by simpa using h
  have hall := editAll_of_notMem hout slot f
  exact List.head_eq_of_cons_eq hall

mutual

theorem edit_edit (p : Nat) (slot : Slot) (f g : List Tree → List Tree) (t : Tree) :
    (t.edit p slot f).edit p slot g = t.edit p slot fun ts => g (f ts) := by
  cases t with
  | node handle attributes inside =>
      simp only [edit]
      refine congrArg _ (funext fun s => ?_)
      by_cases hp : handle = p
      · simp only [if_pos hp]
        by_cases hs : s = slot <;> simp [hs]
      · simp only [if_neg hp]
        exact editAll_editAll p slot f g (inside s)

/-- Two changes of one list are one. -/
theorem editAll_editAll (p : Nat) (slot : Slot) (f g : List Tree → List Tree) (ts : List Tree) :
    editAll p slot g (editAll p slot f ts) = editAll p slot (fun ts => g (f ts)) ts := by
  cases ts with
  | nil => rfl
  | cons t ts => rw [editAll, editAll, editAll, edit_edit, editAll_editAll]

end

mutual

theorem edit_edit_of_notMem {t : Tree} (h : k ∉ t.handles) (p : Nat) (slot s : Slot)
    (f g : List Tree → List Tree) :
    (t.edit p slot f).edit k s g = t.edit p slot fun ts => editAll k s g (f ts) := by
  cases t with
  | node handle attributes inside =>
      have hne : handle ≠ k := by
        rintro rfl
        exact h (handle_mem_handles _)
      have hinside : ∀ r, k ∉ allHandles (inside r) := fun r hk =>
        h (allHandles_subset_handles (.node handle attributes inside) r k hk)
      simp only [edit, if_neg hne]
      refine congrArg _ (funext fun r => ?_)
      by_cases hp : handle = p
      · simp only [if_pos hp]
        by_cases hr : r = slot
        · simp only [if_pos hr]
        · simp only [if_neg hr]
          exact editAll_of_notMem (hinside r) s g
      · simp only [if_neg hp]
        exact editAll_editAll_of_notMem (hinside r) p slot s f g

/-- What is changed at a node that came in by a change can be changed before it comes in. -/
theorem editAll_editAll_of_notMem {ts : List Tree} (h : k ∉ allHandles ts) (p : Nat)
    (slot s : Slot) (f g : List Tree → List Tree) :
    editAll k s g (editAll p slot f ts) = editAll p slot (fun ts => editAll k s g (f ts)) ts := by
  cases ts with
  | nil => rfl
  | cons t ts =>
      rw [allHandles_cons, List.mem_append, not_or] at h
      rw [editAll, editAll, editAll, edit_edit_of_notMem h.1, editAll_editAll_of_notMem h.2]

end

section

variable {α : Type} [DecidableEq α] {φ : Tree → α}

mutual

theorem count_edit (hφ : ∀ p slot f t, φ (edit p slot f t) = φ t) {t : Tree} (h : t.handles.Nodup)
    {n : Tree} (hn : n ∈ t.nodes) (slot : Slot) (f : List Tree → List Tree) (x : α) :
    ((t.edit n.handle slot f).nodes.map φ).count x + ((allNodes (n.inside slot)).map φ).count x =
      (t.nodes.map φ).count x + ((allNodes (f (n.inside slot))).map φ).count x := by
  cases t with
  | node handle attributes inside =>
      rw [count_nodes, count_nodes, hφ]
      rcases mem_nodes.mp hn with rfl | ⟨r, hr⟩
      · simp only [inside_edit_self]
        cases slot <;> simp <;> omega
      -- The node is in one slot, so the change is made there and finds nothing in the others.
      · have hr' : n.handle ∈ allHandles (inside r) := List.mem_map_of_mem hr
        have hne : handle ≠ n.handle := by
          rintro rfl
          exact handle_notMem_inside h r hr'
        have hother : ∀ r', r ≠ r' → editAll n.handle slot f (inside r') = inside r' :=
          fun r' hrr => editAll_of_notMem (disjoint_inside h hrr hr') slot f
        have hinside : ∀ r', (edit n.handle slot f (.node handle attributes inside)).inside r' =
            editAll n.handle slot f (inside r') :=
          fun r' => inside_edit_of_ne (t := .node handle attributes inside) hne slot f r'
        have hself : ∀ r', (node handle attributes inside).inside r' = inside r' := fun _ => rfl
        have hnodup : (allHandles (inside r)).Nodup := nodup_inside h r
        have hcount := count_editAll hφ hnodup hr slot f x
        simp only [hinside, hself]
        cases r with
        | items =>
            rw [hother .yes (by decide), hother .no (by decide)]
            omega
        | yes =>
            rw [hother .items (by decide), hother .no (by decide)]
            omega
        | no =>
            rw [hother .items (by decide), hother .yes (by decide)]
            omega

theorem count_editAll (hφ : ∀ p slot f t, φ (edit p slot f t) = φ t) {ts : List Tree}
    (h : (allHandles ts).Nodup) {n : Tree} (hn : n ∈ allNodes ts) (slot : Slot)
    (f : List Tree → List Tree) (x : α) :
    ((allNodes (editAll n.handle slot f ts)).map φ).count x +
        ((allNodes (n.inside slot)).map φ).count x =
      ((allNodes ts).map φ).count x + ((allNodes (f (n.inside slot))).map φ).count x := by
  cases ts with
  | nil => cases hn
  | cons t ts =>
      rw [allHandles_cons] at h
      rw [editAll, allNodes, allNodes, List.map_append, List.map_append, List.count_append,
        List.count_append]
      rw [allNodes, List.mem_append] at hn
      rcases hn with hn | hn
      · have hout : n.handle ∉ allHandles ts :=
          List.disjoint_of_nodup_append h (List.mem_map_of_mem hn)
        have hcount := count_edit hφ h.of_append_left hn slot f x
        rw [editAll_of_notMem hout]
        omega
      · have hout : n.handle ∉ t.handles := fun hmem =>
          List.disjoint_of_nodup_append h hmem (List.mem_map_of_mem hn)
        have hcount := count_editAll hφ h.of_append_right hn slot f x
        rw [edit_of_notMem hout]
        omega

end

end

/-- The marks that no change of what is held touches go out and come in with the nodes. -/
theorem perm_map_editAll {α : Type} {φ : Tree → α} (hφ : ∀ p slot f t, φ (edit p slot f t) = φ t)
    (h : (allHandles ts).Nodup) (hn : n ∈ allNodes ts) (slot : Slot) (f : List Tree → List Tree) :
    ((allNodes (editAll n.handle slot f ts)).map φ ++ (allNodes (n.inside slot)).map φ).Perm
      ((allNodes ts).map φ ++ (allNodes (f (n.inside slot))).map φ) := by
  classical
  rw [List.perm_iff_count]
  intro x
  rw [List.count_append, List.count_append]
  exact count_editAll hφ h hn slot f x

/-- **A change of what a node holds takes out what was there and brings in what is there now.** -/
theorem perm_editAll (h : (allHandles ts).Nodup) (hn : n ∈ allNodes ts) (slot : Slot)
    (f : List Tree → List Tree) :
    (allLabels (editAll n.handle slot f ts) ++ allLabels (n.inside slot)).Perm
      (allLabels ts ++ allLabels (f (n.inside slot))) := by
  refine perm_map_editAll (fun p slot f t => ?_) h hn slot f
  rw [label, handle_edit, attributes_edit, label]

mutual

theorem of_mem_nodes_edit {t m : Tree} (hnodup : t.handles.Nodup)
    (h : m ∈ (t.edit p slot f).nodes) :
    (∃ n ∈ t.nodes, m = n.edit p slot f) ∨
      ∃ n ∈ t.nodes, n.handle = p ∧ m ∈ allNodes (f (n.inside slot)) := by
  cases t with
  | node handle attributes inside =>
      have hsub : ∀ {n r}, n ∈ allNodes (inside r) → n ∈ (node handle attributes inside).nodes :=
        fun {n} {r} hn => allNodes_subset_nodes (.node handle attributes inside) r n hn
      rcases mem_nodes.mp h with rfl | ⟨r, hr⟩
      · exact Or.inl ⟨_, self_mem_nodes _, rfl⟩
      · by_cases hp : handle = p
        · subst hp
          have hinside := inside_edit_self (.node handle attributes inside) slot f r
          rw [show (edit handle slot f (.node handle attributes inside)).inside r = _ from
            hinside] at hr
          by_cases hslot : r = slot
          · rw [if_pos hslot, hslot] at hr
            exact Or.inr ⟨_, self_mem_nodes _, rfl, hr⟩
          · rw [if_neg hslot] at hr
            have hout : handle ∉ m.handles := fun hmem =>
              handle_notMem_inside hnodup r (handles_subset_of_mem hr handle hmem)
            exact Or.inl ⟨m, hsub hr, (edit_of_notMem hout slot f).symm⟩
        · rw [inside_edit_of_ne (t := .node handle attributes inside) hp] at hr
          have hnodup' : (allHandles (inside r)).Nodup := nodup_inside hnodup r
          rcases of_mem_allNodes_editAll hnodup' hr with
            ⟨n, hn, hm⟩ | ⟨n, hn, hm⟩
          · exact Or.inl ⟨n, hsub hn, hm⟩
          · exact Or.inr ⟨n, hsub hn, hm⟩

/-- The nodes after a change are the nodes from before with the change in them, and those of what
came into the slot. -/
theorem of_mem_allNodes_editAll {ts : List Tree} {m : Tree} (hnodup : (allHandles ts).Nodup)
    (h : m ∈ allNodes (editAll p slot f ts)) :
    (∃ n ∈ allNodes ts, m = n.edit p slot f) ∨
      ∃ n ∈ allNodes ts, n.handle = p ∧ m ∈ allNodes (f (n.inside slot)) := by
  cases ts with
  | nil => exact absurd h List.not_mem_nil
  | cons t ts =>
      rw [allHandles_cons] at hnodup
      simp only [editAll, allNodes, List.mem_append] at h ⊢
      rcases h with h | h
      · rcases of_mem_nodes_edit hnodup.of_append_left h with ⟨n, hn, hm⟩ | ⟨n, hn, hm⟩
        · exact Or.inl ⟨n, Or.inl hn, hm⟩
        · exact Or.inr ⟨n, Or.inl hn, hm⟩
      · rcases of_mem_allNodes_editAll hnodup.of_append_right h with ⟨n, hn, hm⟩ | ⟨n, hn, hm⟩
        · exact Or.inl ⟨n, Or.inr hn, hm⟩
        · exact Or.inr ⟨n, Or.inr hn, hm⟩

end

end Tree

end Questionnaire.Editor
