/-
Operations on trees that stand side by side.

Besides `edit` there are three.  `put` puts a tree into a list where a position says, `deleteAll`
takes a node out with all that it holds, and `amendAll` changes the attributes of one node.  The
first two are changes of one list: taking a tree out of the list it stands in is `deleteAll`,
`editAll_without`.
-/
import Questionnaire.Proofs.Editor.Woods

namespace Questionnaire.Editor

/-! ### Positions -/

/-- A position that a list takes: an index has to fit sixty-four bits. -/
def Position.Usable : Position → Prop
  | .last => True
  | .at i => -2 ^ 63 ≤ i ∧ i < 2 ^ 63
  | .unusable => False

theorem Position.offset_of_usable {position : Position} (h : position.Usable) (length : Nat) :
    ∃ offset, position.offset length = .ok offset := by
  cases position with
  | last => exact ⟨length, rfl⟩
  | «at» i =>
      obtain ⟨hlow, hhigh⟩ := h
      rw [offset, if_neg (by simp only [Bool.or_eq_true, decide_eq_true_eq]; omega)]
      exact ⟨_, rfl⟩
  | unusable => exact h.elim

theorem Position.offset_of_not_usable {position : Position} (h : ¬position.Usable)
    (length : Nat) : ∃ m, position.offset length = .error m := by
  cases position with
  | last => exact absurd trivial h
  | «at» i =>
      have hout : ¬(-2 ^ 63 ≤ i ∧ i < 2 ^ 63) := h
      rw [offset, if_pos (by simp only [Bool.or_eq_true, decide_eq_true_eq]; omega)]
      exact ⟨_, rfl⟩
  | unusable => exact ⟨_, rfl⟩

theorem Position.usable_of_offset {position : Position} {length offset : Nat}
    (h : position.offset length = .ok offset) : position.Usable := by
  by_contra hout
  obtain ⟨m, hm⟩ := offset_of_not_usable hout length
  rw [h] at hm
  cases hm

theorem Position.not_usable_of_offset {position : Position} {length : Nat} {m : Misfit}
    (h : position.offset length = .error m) : ¬position.Usable := by
  intro husable
  obtain ⟨offset, hok⟩ := offset_of_usable husable length
  rw [hok] at h
  cases h

namespace Tree

variable {t n : Tree} {ts us : List Tree} {p k h : Nat} {slot : Slot} {position : Position}

/-- Trees side by side with one more where a position says. -/
def put (position : Position) (t : Tree) (ts : List Tree) : List Tree :=
  match position.offset ts.length with
  | .ok offset => ts.take offset ++ t :: ts.drop offset
  | .error _ => ts

@[simp] theorem put_last (t : Tree) (ts : List Tree) : put .last t ts = ts ++ [t] := by
  simp [put, Position.offset]

theorem put_of_offset {offset : Nat} (h : position.offset ts.length = .ok offset) (t : Tree) :
    put position t ts = ts.take offset ++ t :: ts.drop offset := by
  rw [put, h]

theorem perm_put (h : position.Usable) (t : Tree) (ts : List Tree) :
    (put position t ts).Perm (ts ++ [t]) := by
  obtain ⟨offset, hoffset⟩ := Position.offset_of_usable h ts.length
  rw [put_of_offset hoffset]
  refine List.perm_middle.trans ?_
  rw [List.take_append_drop]
  exact (List.perm_append_singleton t ts).symm

theorem mem_allNodes_put (h : n ∈ allNodes (put position t ts)) :
    n ∈ allNodes ts ∨ n ∈ t.nodes := by
  unfold put at h
  split at h
  · next offset _ =>
      rw [allNodes_append, allNodes, List.mem_append, List.mem_append] at h
      rcases h with h | h | h
      · obtain ⟨u, hu, hn⟩ := mem_allNodes.mp h
        exact Or.inl (mem_allNodes.mpr ⟨u, List.mem_of_mem_take hu, hn⟩)
      · exact Or.inr h
      · obtain ⟨u, hu, hn⟩ := mem_allNodes.mp h
        exact Or.inl (mem_allNodes.mpr ⟨u, List.mem_of_mem_drop hu, hn⟩)
  · exact Or.inl h

theorem map_handle_put {offset : Nat} (h : position.offset ts.length = .ok offset) (t : Tree) :
    (put position t ts).map handle = insertAt offset t.handle (ts.map handle) := by
  rw [put_of_offset h, insertAt, List.map_append, List.map_cons, List.map_take, List.map_drop]

theorem notMem_of_subset (hk : k ∉ allHandles ts) (hsub : us ⊆ ts) : k ∉ allHandles us := by
  intro hmem
  obtain ⟨t, ht, hkt⟩ := mem_allHandles.mp hmem
  exact hk (mem_allHandles.mpr ⟨t, hsub ht, hkt⟩)

/-- A change inside a tree that was put among others can be made before it is put there. -/
theorem editAll_put (hk : k ∉ allHandles ts) (position : Position) (t : Tree) (slot : Slot)
    (f : List Tree → List Tree) :
    editAll k slot f (put position t ts) = put position (t.edit k slot f) ts := by
  unfold put
  split
  · next offset hoffset =>
      rw [editAll_append, editAll, editAll_of_notMem (notMem_of_subset hk (List.take_subset _ _)),
        editAll_of_notMem (notMem_of_subset hk (List.drop_subset _ _))]
  · exact editAll_of_notMem hk slot f

/-! ### Taking a node out -/

mutual

def delete (k : Nat) : Tree → Tree
  | .node handle attributes inside => .node handle attributes fun slot => deleteAll k (inside slot)

/-- Trees side by side without the node with a handle and all that it holds. -/
def deleteAll (k : Nat) : List Tree → List Tree
  | [] => []
  | t :: ts => if t.handle = k then deleteAll k ts else delete k t :: deleteAll k ts

end

/-- The trees of a list but the one with a handle. -/
def without (k : Nat) (ts : List Tree) : List Tree := ts.filter (·.handle ≠ k)

/-- A tree that is left out of a list is the one that is missing. -/
theorem perm_without (hnodup : (ts.map handle).Nodup) (ht : t ∈ ts) :
    (without t.handle ts ++ [t]).Perm ts := by
  obtain ⟨front, back, rfl⟩ := List.append_of_mem ht
  rw [List.map_append, List.map_cons, List.nodup_append, List.nodup_cons] at hnodup
  obtain ⟨-, ⟨hback, -⟩, hfront⟩ := hnodup
  have hkeep : ∀ u ∈ front ++ back, decide (u.handle ≠ t.handle) = true := by
    intro u hu
    rw [decide_eq_true_iff]
    intro heq
    rcases List.mem_append.mp hu with hu | hu
    · exact hfront _ (List.mem_map_of_mem hu) _ List.mem_cons_self heq
    · exact hback (heq ▸ List.mem_map_of_mem hu)
  have hwithout : without t.handle (front ++ t :: back) = front ++ back := by
    rw [without, List.filter_append, List.filter_cons, if_neg (by simp), ← List.filter_append]
    exact List.filter_eq_self.mpr hkeep
  rw [hwithout]
  exact (List.perm_append_singleton t _).trans List.perm_middle.symm

theorem map_handle_without (hnodup : (ts.map handle).Nodup) (k : Nat) :
    (without k ts).map handle = (ts.map handle).erase k := by
  rw [hnodup.erase_eq_filter, List.filter_map, without]
  refine congrArg (List.map handle) (List.filter_congr fun t _ => ?_)
  show decide (t.handle ≠ k) = (t.handle != k)
  by_cases heq : t.handle = k <;> simp [heq]

mutual

theorem delete_of_notMem {t : Tree} (h : k ∉ t.handles) : t.delete k = t := by
  cases t with
  | node handle attributes inside =>
      rw [delete]
      have hinside : ∀ slot, k ∉ allHandles (inside slot) := fun slot hk =>
        h (allHandles_subset_handles (.node handle attributes inside) slot k hk)
      exact congrArg _ (funext fun slot => deleteAll_of_notMem (hinside slot))

theorem deleteAll_of_notMem {ts : List Tree} (h : k ∉ allHandles ts) : deleteAll k ts = ts := by
  cases ts with
  | nil => rfl
  | cons t ts =>
      rw [allHandles_cons, List.mem_append, not_or] at h
      have hne : t.handle ≠ k := by
        rintro rfl
        exact h.1 (handle_mem_handles t)
      rw [deleteAll, if_neg hne, delete_of_notMem h.1, deleteAll_of_notMem h.2]

end

/-- Where the node stands among the trees themselves, its tree is taken out and no other changes. -/
theorem deleteAll_eq_without (hnodup : (allHandles ts).Nodup) (hk : k ∈ ts.map handle) :
    deleteAll k ts = without k ts := by
  induction ts with
  | nil => rfl
  | cons t ts ih =>
      rw [allHandles_cons] at hnodup
      rw [deleteAll, without, List.filter_cons]
      by_cases ht : t.handle = k
      · have hout : k ∉ allHandles ts := fun hmem =>
          List.disjoint_of_nodup_append hnodup (handle_mem_handles t) (ht ▸ hmem)
        have hrest : ts.filter (·.handle ≠ k) = ts := by
          refine List.filter_eq_self.mpr fun u hu => decide_eq_true ?_
          rintro rfl
          exact hout (mem_allHandles.mpr ⟨u, hu, handle_mem_handles u⟩)
        simp only [ht, if_true, ne_eq, not_true_eq_false, decide_false, Bool.false_eq_true,
          if_false]
        rw [deleteAll_of_notMem hout]
        exact hrest.symm
      · have hk' : k ∈ ts.map handle := by
          rcases List.mem_cons.mp hk with heq | hmem
          · exact absurd heq.symm ht
          · exact hmem
        obtain ⟨u, hu, huk⟩ := List.mem_map.mp hk'
        have hout : k ∉ t.handles := fun hmem => List.disjoint_of_nodup_append hnodup hmem
          (mem_allHandles.mpr ⟨u, hu, huk ▸ handle_mem_handles u⟩)
        rw [if_neg ht, if_pos (decide_eq_true ht), delete_of_notMem hout,
          ih hnodup.of_append_right hk', without]

mutual

theorem edit_without {t : Tree} (hnodup : t.handles.Nodup) (hn : n ∈ t.nodes)
    (hk : k ∈ (n.inside slot).map handle) : t.edit n.handle slot (without k) = t.delete k := by
  cases t with
  | node handle attributes inside =>
      have hkn : k ∈ allHandles (n.inside slot) := map_handle_subset _ k hk
      rw [delete, edit]
      refine congrArg _ (funext fun s => ?_)
      rcases mem_nodes.mp hn with rfl | ⟨r, hr⟩
      · have hself : (node handle attributes inside).handle = handle := rfl
        rw [hself, if_pos rfl]
        by_cases hs : s = slot
        · rw [if_pos hs, hs]
          exact (deleteAll_eq_without (nodup_inside hnodup slot) hk).symm
        · rw [if_neg hs]
          exact (deleteAll_of_notMem (disjoint_inside hnodup (Ne.symm hs) hkn)).symm
      · have hhandle : n.handle ∈ allHandles (inside r) := List.mem_map_of_mem hr
        have hne : handle ≠ n.handle := by
          rintro rfl
          exact handle_notMem_inside hnodup r hhandle
        rw [if_neg hne]
        by_cases hs : s = r
        · rw [hs]
          have hinside : (allHandles (inside r)).Nodup := nodup_inside hnodup r
          exact editAll_without hinside hr hk
        · have hother : ∀ x ∈ allHandles (inside r), x ∉ allHandles (inside s) := fun x hx =>
            disjoint_inside hnodup (Ne.symm hs) hx
          have hkr : k ∈ allHandles (inside r) :=
            handles_subset_of_mem hr k (allHandles_subset_handles n slot k hkn)
          rw [editAll_of_notMem (hother _ hhandle), deleteAll_of_notMem (hother k hkr)]

/-- **Taking a tree out of the list it stands in takes the node out,** wherever that list is. -/
theorem editAll_without {ts : List Tree} (hnodup : (allHandles ts).Nodup) (hn : n ∈ allNodes ts)
    (hk : k ∈ (n.inside slot).map handle) :
    editAll n.handle slot (without k) ts = deleteAll k ts := by
  cases ts with
  | nil => rfl
  | cons t ts =>
      have hkn : k ∈ allHandles (n.inside slot) := map_handle_subset _ k hk
      rw [allHandles_cons] at hnodup
      have hdisjoint : ∀ x ∈ t.handles, x ∉ allHandles ts := fun x =>
        @List.disjoint_of_nodup_append _ _ _ hnodup x
      rw [allNodes, List.mem_append] at hn
      rw [editAll, deleteAll]
      rcases hn with hn | hn
      · have hkt : k ∈ t.handles :=
          handles_subset_of_mem_nodes hn k (allHandles_subset_handles n slot k hkn)
        have hne : t.handle ≠ k := by
          rintro rfl
          exact top_notMem_inside hnodup.of_append_left hn slot hkn
        rw [if_neg hne, edit_without hnodup.of_append_left hn hk,
          editAll_of_notMem (hdisjoint _ (List.mem_map_of_mem hn)),
          deleteAll_of_notMem (hdisjoint k hkt)]
      · have hkts : k ∈ allHandles ts :=
          handles_subset_of_mem hn k (allHandles_subset_handles n slot k hkn)
        have hne : t.handle ≠ k := by
          rintro rfl
          exact hdisjoint _ (handle_mem_handles t) hkts
        rw [if_neg hne, edit_of_notMem fun hmem => hdisjoint _ hmem (List.mem_map_of_mem hn),
          delete_of_notMem fun hmem => hdisjoint k hmem hkts,
          editAll_without hnodup.of_append_right hn hk]

end

/-! ### Changing attributes -/

mutual

def amend (k : Nat) (f : Entries Json → Entries Json) : Tree → Tree
  | .node handle attributes inside =>
    .node handle (if handle = k then f attributes else attributes) fun slot =>
      amendAll k f (inside slot)

/-- Trees side by side with the attributes of one node changed. -/
def amendAll (k : Nat) (f : Entries Json → Entries Json) : List Tree → List Tree
  | [] => []
  | t :: ts => amend k f t :: amendAll k f ts

end

variable {f g : Entries Json → Entries Json}

@[simp] theorem handle_amend (k : Nat) (f : Entries Json → Entries Json) (t : Tree) :
    (t.amend k f).handle = t.handle := by
  cases t
  rfl

theorem attributes_amend (k : Nat) (f : Entries Json → Entries Json) (t : Tree) :
    (t.amend k f).attributes = if t.handle = k then f t.attributes else t.attributes := by
  cases t
  rfl

theorem inside_amend (k : Nat) (f : Entries Json → Entries Json) (t : Tree) (slot : Slot) :
    (t.amend k f).inside slot = amendAll k f (t.inside slot) := by
  cases t
  rfl

theorem amendAll_eq_map (k : Nat) (f : Entries Json → Entries Json) (ts : List Tree) :
    amendAll k f ts = ts.map (amend k f) := by
  induction ts with
  | nil => rfl
  | cons t ts ih => rw [amendAll, ih, List.map_cons]

theorem map_handle_amendAll (k : Nat) (f : Entries Json → Entries Json) (ts : List Tree) :
    (amendAll k f ts).map handle = ts.map handle := by
  rw [amendAll_eq_map, List.map_map]
  exact List.map_congr_left fun t _ => handle_amend k f t

mutual

theorem nodes_amend (k : Nat) (f : Entries Json → Entries Json) (t : Tree) :
    (t.amend k f).nodes = t.nodes.map (amend k f) := by
  cases t with
  | node handle attributes inside =>
      simp only [amend, nodes, Slot.all, List.flatMap_cons, List.flatMap_nil, List.map_cons,
        List.map_append, List.map_nil, allNodes_amendAll k f (inside _)]

/-- The nodes after a change of attributes are the nodes from before with the change in them. -/
theorem allNodes_amendAll (k : Nat) (f : Entries Json → Entries Json) (ts : List Tree) :
    allNodes (amendAll k f ts) = (allNodes ts).map (amend k f) := by
  cases ts with
  | nil => rfl
  | cons t ts =>
      rw [amendAll, allNodes, allNodes, List.map_append, nodes_amend, allNodes_amendAll]

end

/-- The label of a node after a change of the attributes under a handle. -/
def relabel (k : Nat) (f : Entries Json → Entries Json) (l : Nat × Entries Json) :
    Nat × Entries Json :=
  if l.1 = k then (l.1, f l.2) else l

theorem relabel_fst (k : Nat) (f : Entries Json → Entries Json) (l : Nat × Entries Json) :
    (relabel k f l).1 = l.1 := by
  rw [relabel]
  split <;> rfl

theorem allLabels_amendAll (k : Nat) (f : Entries Json → Entries Json) (ts : List Tree) :
    allLabels (amendAll k f ts) = (allLabels ts).map (relabel k f) := by
  rw [allLabels, allNodes_amendAll, List.map_map, allLabels, List.map_map]
  refine List.map_congr_left fun t _ => ?_
  show (t.amend k f).label = relabel k f t.label
  rw [label, handle_amend, attributes_amend, relabel, label]
  split <;> rfl

mutual

theorem amend_id (k : Nat) (t : Tree) : t.amend k id = t := by
  cases t with
  | node handle attributes inside =>
      rw [amend, id, ite_self]
      exact congrArg _ (funext fun slot => amendAll_id k (inside slot))

theorem amendAll_id (k : Nat) (ts : List Tree) : amendAll k id ts = ts := by
  cases ts with
  | nil => rfl
  | cons t ts => rw [amendAll, amend_id, amendAll_id]

end

mutual

theorem amend_amend (k : Nat) (f g : Entries Json → Entries Json) (t : Tree) :
    (t.amend k f).amend k g = t.amend k fun attributes => g (f attributes) := by
  cases t with
  | node handle attributes inside =>
      simp only [amend]
      by_cases hk : handle = k
      · simp only [if_pos hk]
        exact congrArg _ (funext fun slot => amendAll_amendAll k f g (inside slot))
      · simp only [if_neg hk]
        exact congrArg _ (funext fun slot => amendAll_amendAll k f g (inside slot))

theorem amendAll_amendAll (k : Nat) (f g : Entries Json → Entries Json) (ts : List Tree) :
    amendAll k g (amendAll k f ts) = amendAll k (fun attributes => g (f attributes)) ts := by
  cases ts with
  | nil => rfl
  | cons t ts => rw [amendAll, amendAll, amendAll, amend_amend, amendAll_amendAll]

end

end Tree

namespace Woods

open Questionnaire.Editor.Tree

/-- The same with the attributes of one node changed. -/
def amend (w : Woods) (k : Nat) (f : Entries Json → Entries Json) : Woods :=
  ⟨amendAll k f w.roots, amendAll k f w.loose⟩

variable {w : Woods} {place : Place} {ts : List Tree}

/-- A change inside a tree that was put into a list can be made before it is put there. -/
theorem edit_edit_put {t : Tree} (hk : t.handle ∉ w.handles) (place : Place) (position : Position)
    (slot : Slot) (f : List Tree → List Tree) :
    (w.edit place (put position t)).edit ⟨some t.handle, slot⟩ f =
      w.edit place (put position (t.edit t.handle slot f)) := by
  have hroots : t.handle ∉ allHandles w.roots := fun h =>
    hk (by rw [handles, all, allHandles_append]; exact List.mem_append_left _ h)
  have hloose : t.handle ∉ allHandles w.loose := fun h =>
    hk (by rw [handles, all, allHandles_append]; exact List.mem_append_right _ h)
  have hinside : ∀ {ts : List Tree}, t.handle ∉ allHandles ts → ∀ p s,
      editAll t.handle slot f (editAll p s (put position t) ts) =
        editAll p s (put position (t.edit t.handle slot f)) ts := by
    intro ts hts p s
    rw [editAll_editAll_of_notMem hts]
    refine editAll_congr fun n hn _ => editAll_put (fun hmem => hts ?_) position t slot f
    exact handles_subset_of_mem hn _ (allHandles_subset_handles n s _ hmem)
  obtain ⟨parent, s⟩ := place
  cases parent with
  | none =>
      show Woods.mk (editAll t.handle slot f (put position t w.roots))
        (editAll t.handle slot f w.loose) = ⟨put position (t.edit t.handle slot f) w.roots, w.loose⟩
      rw [editAll_put hroots, editAll_of_notMem hloose]
  | some p => rw [edit_inside, edit_inside, edit_inside, hinside hroots, hinside hloose]

/-- A tree that is taken out of its list and put aside is all that the list lost. -/
theorem ListAt.perm_without {t : Tree} (hnodup : w.handles.Nodup) (hlist : w.ListAt place ts)
    (ht : t ∈ ts) : (without t.handle ts ++ [t]).Perm (ts ++ []) := by
  rw [List.append_nil]
  exact Tree.perm_without (hlist.nodup_handles hnodup) ht

/-- **Taking a tree out of its list takes the node out.** -/
theorem editAt_without {k : Nat} (hnodup : w.handles.Nodup) (hloose : w.loose = [])
    (hlist : w.ListAt place ts) (hk : k ∈ ts.map handle) :
    editAt place (without k) w.roots = deleteAll k w.roots := by
  have hall : w.all = w.roots := by rw [all, hloose, List.append_nil]
  rw [handles, hall] at hnodup
  cases hlist with
  | top => exact (deleteAll_eq_without hnodup hk).symm
  | inside hn slot =>
      rw [nodes, hall] at hn
      exact editAll_without hnodup hn hk

theorem all_amend (w : Woods) (k : Nat) (f : Entries Json → Entries Json) :
    (w.amend k f).all = amendAll k f w.all := by
  simp only [all, amend, amendAll_eq_map, List.map_append]

theorem labels_amend (w : Woods) (k : Nat) (f : Entries Json → Entries Json) :
    (w.amend k f).labels = w.labels.map (relabel k f) := by
  rw [labels, all_amend, allLabels_amendAll, labels]

theorem handles_amend (w : Woods) (k : Nat) (f : Entries Json → Entries Json) :
    (w.amend k f).handles = w.handles := by
  rw [← map_fst_labels, labels_amend, List.map_map, ← map_fst_labels]
  exact List.map_congr_left fun l _ => relabel_fst k f l

theorem amend_id (w : Woods) (k : Nat) : w.amend k id = w := by
  rw [amend, amendAll_id, amendAll_id]

theorem amend_amend (w : Woods) (k : Nat) (f g : Entries Json → Entries Json) :
    (w.amend k f).amend k g = w.amend k fun attributes => g (f attributes) := by
  simp only [amend, amendAll_amendAll]

theorem loose_amend_eq_nil (w : Woods) (k : Nat) (f : Entries Json → Entries Json) :
    (w.amend k f).loose = [] ↔ w.loose = [] := by
  show amendAll k f w.loose = [] ↔ w.loose = []
  rw [amendAll_eq_map, List.map_eq_nil_iff]

/-- A change of attributes leaves every list with the handles it had. -/
theorem listAt_amend {k : Nat} {f : Entries Json → Entries Json}
    (hlist : (w.amend k f).ListAt place ts) :
    ∃ us, w.ListAt place us ∧ ts.map handle = us.map handle := by
  cases hlist with
  | top => exact ⟨w.roots, .top, map_handle_amendAll k f w.roots⟩
  | inside hn slot =>
      rw [nodes, all_amend, allNodes_amendAll] at hn
      obtain ⟨n, hmem, rfl⟩ := List.mem_map.mp hn
      rw [handle_amend, inside_amend]
      exact ⟨n.inside slot, .inside hmem slot, map_handle_amendAll k f _⟩

end Woods

end Questionnaire.Editor
