/-
Editing as operations on trees.

An editor stands for the trees that are read off it, `forest`.  Every change that succeeds is an
operation on these trees, `Refined`: the tree that is read from a value is put into a list, a node
is taken out with all it holds, a tree is taken out and put into another list, the attributes of a
node are changed.  Everything else keeps its attributes, its list and its order there.  So the
tables never have to be looked at to say what an editor shows, `refined_after`.
-/
import Questionnaire.Proofs.Editor.Frame
import Questionnaire.Proofs.Editor.Session

namespace Questionnaire.Editor

open Questionnaire.Editor.Tree

/-- What a change that succeeds makes of the trees that are read off. -/
inductive Refined (e e' : Editor) : Edit → Prop
  /-- The tree that is read from the value, with handles in reading order that no tree has, is put
  where the position says. -/
  | add {raw : Json} {parent : Option Int} {slot : Json} {position : Position} {place : Place}
      (hobject : raw.isObject = true) (husable : position.Usable)
      (hplace : place.Named parent slot) (hopen : (Woods.mk e.forest []).Open place)
      (hnumbered : NumberedFrom e.next [read e.next raw])
      (hfresh : ∀ k ∈ allHandles e.forest, k < e.next)
      (hforest : e'.forest = Woods.editAt place (put position (read e.next raw)) e.forest)
      (hrest : SameBut (read e.next raw).handles (read e.next raw).handles e e') :
      Refined e e' (.add raw parent slot position)
  | update {handle : Int} {changes : Entries Json} {n : Tree}
      (hn : n ∈ allNodes e.forest) (hhandle : (n.handle : Int) = handle)
      (hforest : e'.forest = amendAll n.handle (reviseAll changes) e.forest)
      (hrest : SameBut [n.handle] [] e e') : Refined e e' (.update handle changes)
  | remove {handle : Int} {t : Tree}
      (ht : t ∈ allNodes e.forest) (hhandle : (t.handle : Int) = handle)
      (hforest : e'.forest = deleteAll t.handle e.forest)
      (hrest : SameBut t.handles t.handles e e') : Refined e e' (.remove handle)
  /-- The tree is taken out, and put where the position says in a list of what remains. -/
  | move {handle : Int} {parent : Option Int} {slot : Json} {position : Position} {t : Tree}
      {place : Place} (husable : position.Usable)
      (ht : t ∈ allNodes e.forest) (hhandle : (t.handle : Int) = handle)
      (hplace : place.Named parent slot)
      (hopen : (Woods.mk (deleteAll t.handle e.forest) []).Open place)
      (hforest : e'.forest = Woods.editAt place (put position t) (deleteAll t.handle e.forest))
      (hrest : SameBut [] [t.handle] e e') : Refined e e' (.move handle parent slot position)
  | select {handle : Option Int} (hforest : e'.forest = e.forest) (hrest : SameBut [] [] e e') :
      Refined e e' (.select handle)

variable {e e' e₀ : Editor} {w : Woods} {roots : List Tree} {place : Place} {ts : List Tree}
  {t : Tree} {item : Live}

/-- A tree is added to a list that is read off. -/
theorem Refined.open_of_add {raw : Json} {parent : Option Int} {slot : Json} {position : Position}
    (h : Refined e e' (.add raw parent slot position)) :
    ∃ place : Place, place.Named parent slot ∧ (Woods.mk e.forest []).Open place := by
  cases h with
  | add _ _ hplace hopen _ _ _ _ => exact ⟨_, hplace, hopen⟩

namespace Depicts

/-- The node of an item that is asked for. -/
theorem node_of_require (h : Depicts e w) {handle : Int} (hitem : e.require handle = .ok item) :
    ∃ n ∈ w.nodes, n.handle = item.handle ∧ (n.handle : Int) = handle := by
  obtain ⟨hfound, hhandle⟩ := require_eq_ok hitem
  obtain ⟨n, hn, heq, -⟩ := h.node_of_live (List.mem_of_find?_eq_some hfound)
  exact ⟨n, hn, heq, by rw [heq, hhandle]⟩

section

variable (h : Depicts e ⟨roots, []⟩)

include h

/-- Where no tree is loose, the nodes are those of the trees that are read off. -/
theorem nodes_eq_forest : Woods.nodes ⟨roots, []⟩ = allNodes e.forest := by
  rw [h.forest_eq, Woods.nodes_roots]

theorem refined_add {raw : Json} {parent : Option Int} {slot : Json} {position : Position}
    (hrun : (Edit.add raw parent slot position).attempt.run e = (.ok (), e')) :
    Refined e e' (.add raw parent slot position) := by
  obtain ⟨k, hadd⟩ := Attempt.forget_ok hrun
  have hled := ledTo_add h raw parent slot position
  rw [hadd] at hled
  obtain ⟨hobject, husable, -, place, hplace, h'⟩ := hled.of_ok
  have hopen := h.open_of_place hplace
  refine .add hobject husable (named_of_place hplace) ?_ (numberedFrom_read _ _) ?_ ?_
    (h.sameBut_put h' husable hopen)
  · rwa [h.forest_eq]
  · intro k hk
    rw [allHandles, ← h.nodes_eq_forest] at hk
    exact h.fresh k hk
  · rw [h'.forest_eq, h.forest_eq]
    rfl

theorem refined_update {handle : Int} {changes : Entries Json}
    (hrun : (update handle changes).run e = (.ok (), e')) :
    Refined e e' (.update handle changes) := by
  have hled := ledTo_update h handle changes
  rw [hrun] at hled
  obtain ⟨item, hitem, h'⟩ := hled.of_ok
  obtain ⟨n, hn, heq, hhandle⟩ := h.node_of_require hitem
  rw [← heq] at h'
  refine .update (h.nodes_eq_forest ▸ hn) hhandle ?_ (h.sameBut_amend h')
  rw [h'.forest_eq, h.forest_eq]
  rfl

theorem refined_remove {handle : Int} (hrun : (remove handle).run e = (.ok (), e')) :
    Refined e e' (.remove handle) := by
  have hled := ledTo_remove h handle
  rw [hrun] at hled
  obtain ⟨item, ts, hitem, hlist, hmem, h'⟩ := hled.of_ok
  obtain ⟨t, ht, heq⟩ := List.mem_map.mp hmem
  rw [← heq] at h' hmem
  refine .remove (h.nodes_eq_forest ▸ hlist.mem_nodes ht) ?_ ?_ (h.sameBut_without h' hlist ht)
  · rw [heq, (require_eq_ok hitem).2]
  · rw [h'.forest_eq, h.forest_eq]
    exact Woods.editAt_without h.nodup rfl hlist hmem

theorem refined_move {handle : Int} {parent : Option Int} {slot : Json} {position : Position}
    (hrun : (move handle parent slot position).run e = (.ok (), e')) :
    Refined e e' (.move handle parent slot position) := by
  have hled := ledTo_move h handle parent slot position
  rw [hrun] at hled
  obtain ⟨husable, item, ts, t, place, hitem, hlist, ht, heq, hplace, hopen, h'⟩ := hled.of_ok
  have hdelete := Woods.editAt_without h.nodup rfl hlist (List.mem_map_of_mem ht)
  refine .move husable (h.nodes_eq_forest ▸ hlist.mem_nodes ht) ?_ (named_of_place hplace) ?_ ?_
    (h.sameBut_moved h' hlist ht husable hopen)
  · rw [heq, (require_eq_ok hitem).2]
  · rwa [Woods.edit_roots, hdelete, ← h.forest_eq] at hopen
  · rw [h'.forest_eq, h.forest_eq, ← hdelete]
    rfl

theorem refined_select {handle : Option Int} (hrun : (select handle).run e = (.ok (), e')) :
    Refined e e' (.select handle) := by
  have hled := ledTo_select h handle
  rw [hrun] at hled
  have h' := hled.of_ok
  exact .select (by rw [h'.forest_eq, h.forest_eq])
    (h.sameBut h' (fun _ _ => Iff.rfl) fun _ => rfl)

/-- **Where no tree is loose, a change that succeeds is an operation on the trees that are read
off.** -/
theorem refined {edit : Edit} (hrun : edit.attempt.run e = (.ok (), e')) : Refined e e' edit := by
  cases edit with
  | add raw parent slot position => exact h.refined_add hrun
  | update handle changes => exact h.refined_update hrun
  | remove handle => exact h.refined_remove hrun
  | move handle parent slot position => exact h.refined_move hrun
  | select handle => exact h.refined_select hrun

end

end Depicts

end Questionnaire.Editor
