/-
Reading the woods off an editor.

`tree` and `forest` follow the lists of an editor down from a handle and from the top level.
Where the editor depicts woods they are what stands there, `forest_eq`, and so is everything else
that is followed down the lists: the handles of a subtree, `subtree_eq`, the value that describes
the questionnaire, `toJson_eq`, and the document that is read from it, `toDocument_eq`.

All of them go down to a depth that is bounded by the number of items.  The induction is on that
depth: what a node holds has fewer nodes than the node.
-/
import Questionnaire.Proofs.Editor.Depicting

namespace Questionnaire.Editor

open Questionnaire.Editor.Tree

/-- The tree at a handle, down to a depth. -/
def tree (e : Editor) : (depth : Nat) → (handle : Nat) → Tree
  | 0, handle => leaf handle ((e.attributes? handle).getD [])
  | depth + 1, handle =>
    .node handle ((e.attributes? handle).getD []) fun slot =>
      (e.children ⟨some handle, slot⟩).map (e.tree depth)

/-- The trees at the top level. -/
def forest (e : Editor) : List Tree := (e.children .top).map (e.tree e.live.length)

namespace Tree

variable {t n : Tree} {ts : List Tree}

/-- What a node holds has fewer nodes than the node. -/
theorem length_handles_inside {c : Tree} {slot : Slot} (hc : c ∈ n.inside slot) :
    c.handles.length < n.handles.length := by
  have hsize : c.handles.length ≤ (allHandles (n.inside slot)).length := by
    obtain ⟨front, back, heq⟩ := List.append_of_mem hc
    rw [heq, allHandles_append, allHandles_cons, List.length_append, List.length_append]
    omega
  rw [handles_eq n, List.length_cons, List.length_append, List.length_append]
  cases slot <;> omega

/-- Following nodes down with a depth of no less than what there is. -/
theorem depth_induction {motive : Nat → Tree → Prop}
    (step : ∀ depth, ∀ n ∈ allNodes ts, (∀ slot, ∀ c ∈ n.inside slot, motive depth c) →
      motive (depth + 1) n) {depth : Nat} :
    ∀ n ∈ allNodes ts, n.handles.length ≤ depth → motive depth n := by
  induction depth with
  | zero =>
      intro n _ hdepth
      rw [handles_eq, List.length_cons] at hdepth
      omega
  | succ depth ih =>
      intro n hn hdepth
      refine step depth n hn fun slot c hc => ih c ?_ ?_
      · exact allNodes_trans n hn c
          (allNodes_subset_nodes n slot c (mem_allNodes.mpr ⟨c, hc, self_mem_nodes c⟩))
      · have hsmaller := length_handles_inside hc
        omega

end Tree

namespace Depicts

variable {e : Editor} {w : Woods} {n : Tree}

/-- No node has more below it than there are items. -/
theorem depth_le (h : Depicts e w) (hn : n ∈ w.nodes) : n.handles.length ≤ e.live.length := by
  have hsub : n.handles ⊆ w.handles := handles_subset_of_mem hn
  have hnodup : n.handles.Nodup := nodup_of_mem_allNodes h.nodup n hn
  have hlength := h.live_handles.length_eq
  rw [List.length_map] at hlength
  rw [hlength]
  exact (List.subperm_of_subset hnodup hsub).length_le

theorem tree_eq (h : Depicts e w) (hn : n ∈ w.nodes) {depth : Nat}
    (hdepth : n.handles.length ≤ depth) : e.tree depth n.handle = n := by
  refine depth_induction (motive := fun depth n => e.tree depth n.handle = n) ?_ n hn hdepth
  intro depth n hn ih
  have hchildren : ∀ slot,
      (e.children ⟨some n.handle, slot⟩).map (e.tree depth) = n.inside slot := by
    intro slot
    rw [h.children (.inside hn slot), List.map_map]
    exact (List.map_congr_left (ih slot)).trans (List.map_id _)
  rw [tree, h.attributes? hn, Option.getD_some]
  simp only [hchildren]
  cases n
  rfl

/-- **The trees that are read off are those at the top level.** -/
theorem forest_eq (h : Depicts e w) : e.forest = w.roots := by
  rw [forest, h.children .top, List.map_map]
  refine (List.map_congr_left fun t ht => ?_).trans (List.map_id _)
  have hnode : t ∈ w.nodes := Woods.ListAt.top.mem_nodes ht
  exact h.tree_eq hnode (h.depth_le hnode)

theorem descend_eq (h : Depicts e w) (hn : n ∈ w.nodes) {depth : Nat}
    (hdepth : n.handles.length ≤ depth) : e.descend depth n.handle = n.handles := by
  refine depth_induction (motive := fun depth n => e.descend depth n.handle = n.handles) ?_ n hn
    hdepth
  intro depth n hn ih
  have hslot : ∀ slot, (e.children ⟨some n.handle, slot⟩).flatMap (e.descend depth) =
      allHandles (n.inside slot) := by
    intro slot
    rw [h.children (.inside hn slot), List.flatMap_map, allHandles, allNodes_eq_flatMap,
      List.map_flatMap]
    exact List.flatMap_congr (ih slot)
  have hout := h.inside_eq_nil hn
  rw [descend, places_of_attributes? (h.attributes? hn), List.flatMap_map, handles_eq]
  simp only [hslot]
  rcases Slot.ofAttributes_cases n.attributes with ⟨-, hcase⟩ | ⟨-, hcase⟩ | ⟨-, -, hcase⟩
  · rw [hcase, hout .yes (by rw [hcase]; decide), hout .no (by rw [hcase]; decide)]
    simp
  · rw [hcase, hout .items (by rw [hcase]; decide)]
    simp
  · rw [hcase, hout .items (by simp [hcase]), hout .yes (by simp [hcase]),
      hout .no (by simp [hcase])]
    rfl

/-- The subtree at a handle is what its node holds. -/
theorem subtree_eq (h : Depicts e w) (hn : n ∈ w.nodes) : e.subtree n.handle = n.handles :=
  h.descend_eq hn (h.depth_le hn)

theorem describe_eq (h : Depicts e w) (hn : n ∈ w.nodes) {depth : Nat}
    (hdepth : n.handles.length ≤ depth) : e.describe depth n.handle = n.toJson := by
  refine depth_induction (motive := fun depth n => e.describe depth n.handle = n.toJson) ?_ n hn
    hdepth
  intro depth n hn ih
  have hslot : e.describeSlot depth n.handle = fun slot =>
      if (n.inside slot).isEmpty && slot ≠ .items then none
      else some (slot.name, .arr (allToJson (n.inside slot))) := by
    funext slot
    have hinside : ((n.inside slot).map handle).map (e.describe depth) =
        allToJson (n.inside slot) := by
      rw [List.map_map, allToJson_eq_map]
      exact List.map_congr_left (ih slot)
    have hempty : ((n.inside slot).map handle).isEmpty = (n.inside slot).isEmpty := by
      cases n.inside slot <;> rfl
    simp only [describeSlot, h.children (.inside hn slot), hinside, hempty]
  rw [describe_of_slots (h.attributes? hn), hslot]
  cases n with
  | node handle attributes inside =>
      rw [Tree.toJson]
      rfl

/-- **The value that describes the questionnaire is that of the trees at the top level.** -/
theorem toJson_eq (h : Depicts e w) :
    e.toJson = .obj [("version", e.version), ("items", .arr (allToJson w.roots))] := by
  have hitems : (w.roots.map handle).map (e.describe e.live.length) = allToJson w.roots := by
    rw [List.map_map, allToJson_eq_map]
    refine List.map_congr_left fun t ht => ?_
    have hnode : t ∈ w.nodes := Woods.ListAt.top.mem_nodes ht
    exact h.describe_eq hnode (h.depth_le hnode)
  rw [Editor.toJson, h.children .top, hitems]

theorem tidy_roots (h : Depicts e w) : ∀ n ∈ allNodes w.roots, Slot.Tidy n.attributes :=
  fun n hn => h.tidy n.label (Woods.label_mem_labels (Woods.ListAt.top.nodes_subset n hn))

/-- **With a version that is a whole number, the questionnaire is read as a document of the same
shape.** -/
theorem toDocument_eq (h : Depicts e w) {version : Int} (hversion : e.version = .int version) :
    e.toDocument = .ok ⟨version, allToItem w.roots⟩ := by
  have hread := readAll_allToJson h.tidy_roots
  have hread' : Document.ofJson e.toJson = .ok ⟨version, allToItem w.roots⟩ := by
    rw [h.toJson_eq, hversion, Document.ofJson]
    have hname : Document.itemsName? (.obj [("version", .int version),
        ("items", .arr (allToJson w.roots))]) = some "items" := rfl
    have hitems : Json.getD (.obj [("version", .int version),
        ("items", .arr (allToJson w.roots))]) "items" = .arr (allToJson w.roots) := rfl
    have hversion' : Document.readVersion (.obj [("version", .int version),
        ("items", .arr (allToJson w.roots))]) = .ok version := rfl
    simp only [Document.ofObject, hname, hitems, hversion', hread]
    rfl
  rw [Editor.toDocument, Document.load, hread']
  rfl

end Depicts

end Questionnaire.Editor
