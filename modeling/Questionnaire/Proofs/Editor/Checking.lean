/-
What the check sees of an editor.

A document without findings is opened as orderly attributes, `allOrderly_opened`, and an
editor whose attributes are all orderly is read back as a document without findings,
`issues_of_allOrderly`.  Attributes of items that stand nowhere are not read back, so that
the check sees a part of what the editor keeps, in the order of the trees.
-/
import Questionnaire.Proofs.Document.Outline
import Questionnaire.Proofs.Editor.Orderly
import Questionnaire.Proofs.Editor.Reading
import Questionnaire.Proofs.Presentation.WrittenBack

namespace Questionnaire

namespace Item

mutual

/-- Whatever a genuine item holds is genuine. -/
theorem Genuine.throughout {item : Item} (h : item.Genuine) : item.Throughout Genuine := by
  cases item with
  | block text cond items => exact ⟨h, AllGenuine.throughout h⟩
  | yesNo q yes no => exact ⟨h, AllGenuine.throughout h.1, AllGenuine.throughout h.2⟩
  | info | tip | spacer | line | box | check | radio | radioGroup | checkGroup | unknown => exact h

theorem AllGenuine.throughout {items : List Item} (h : AllGenuine items) :
    AllThroughout Genuine items := by
  cases items with
  | nil => trivial
  | cons item items => exact ⟨h.1.throughout, h.2.throughout⟩

end

/-- A genuine item that does not lack a type is written as an object. -/
theorem Genuine.isObject {item : Item} (h : item.Genuine) (htype : item.lacksType = false) :
    item.toJson.isObject = true := by
  cases item with
  | unknown type source =>
      cases source with
      | obj ms => rfl
      | null | bool | int | float | str | arr =>
          -- Such a value is read as an item whose type is empty.
          have hread := Option.some.inj h
          rw [Item.unknown.injEq] at hread
          rw [← hread.1] at htype
          cases htype
  | block | info | tip | spacer | line | box | check | yesNo | radio | radioGroup | checkGroup =>
      rfl

end Item

/-- The ids of a document in order, without the handles. -/
theorem Document.map_fst_written (d : Document) :
    d.written.map Prod.fst = d.outline.flatMap (·.item.written) := by
  rw [written, List.map_flatMap]
  refine List.flatMap_congr fun n _ => ?_
  rw [Node.written, List.map_map]
  exact List.map_id _

namespace Validation

variable {d : Document}

/-- The ids of a sound document are all distinct, for none of them is empty. -/
theorem Sound.nodup_written (h : Sound d) : (d.outline.flatMap (·.item.written)).Nodup := by
  have hkeys : d.keys = d.written := by
    refine List.filter_eq_self.mpr fun k hk => decide_eq_true ?_
    intro hempty
    have hid := h.wellFormed k hk
    rw [hempty] at hid
    cases hid
  rw [← d.map_fst_written, ← hkeys]
  exact h.distinct

/-- The items of a sound document are fit. -/
theorem Sound.fit (h : Sound d) (hcheck : ∀ n ∈ d.outline, n.item.Checkable) :
    ∀ n ∈ d.outline, n.item.Fit := by
  refine fun n hn => ⟨hcheck n hn, fun id hid => ?_, h.complete n hn⟩
  refine h.wellFormed (id, n.handle) (List.mem_flatMap.mpr ⟨n, hn, ?_⟩)
  exact List.mem_map_of_mem hid

/-- A document without findings is sound. -/
theorem sound_of_issues (h : d.issues = .ok []) : Sound d := by
  obtain ⟨issues, hissues, hexact⟩ := exact_issues (checkable_of_issues h)
  exact hexact.eq_nil_iff.mp (Except.ok.inj (hissues.symm.trans h))

/-- The items of a sound document that was read are objects. -/
theorem Sound.isObject (h : Sound d) (hgenuine : Item.AllGenuine d.items) :
    ∀ n ∈ d.outline, n.item.toJson.isObject = true := by
  have hgenuine' := (Document.forall_outlineItems [] 0 d.items).mpr hgenuine.throughout
  exact fun n hn => (hgenuine' n hn).isObject (h.complete n hn).2.2

/-- A document of fit items whose ids are all distinct is sound. -/
theorem sound_of_fit (hfit : ∀ n ∈ d.outline, n.item.Fit)
    (hnodup : (d.outline.flatMap (·.item.written)).Nodup) : Sound d := by
  refine ⟨?_, fun k hk => ?_, fun n hn => (hfit n hn).complete⟩
  · rw [← d.map_fst_written] at hnodup
    exact (List.filter_sublist.map Prod.fst).nodup hnodup
  · obtain ⟨n, hn, hmem⟩ := List.mem_flatMap.mp hk
    obtain ⟨id, hid, rfl⟩ := List.mem_map.mp hmem
    exact (hfit n hn).wellFormed id hid

end Validation

namespace Editor

open Questionnaire.Editor.Tree
open Document (outlineItem outlineItems)

variable {e : Editor} {w : Woods} {d : Document}

/-! ### Opening -/

mutual

/-- What stands in an editor stands there with its own attributes. -/
theorem Stands.attributes? {handle : Nat} {item : Item} (h : Stands e handle item)
    (above : List Nat) :
    ∀ n ∈ outlineItem above handle item, e.attributes? n.handle = some n.item.ownAttributes := by
  cases item with
  | block text cond items =>
      rw [outlineItem, List.forall_mem_cons]
      exact ⟨h.1, h.2.2.attributes? _⟩
  | yesNo q yes no =>
      rw [outlineItem, List.forall_mem_append, List.forall_mem_cons]
      exact ⟨⟨h.1, h.2.1.2.attributes? _⟩, h.2.2.2.attributes? _⟩
  | info | tip | spacer | line | box | check | radio | radioGroup | checkGroup | unknown =>
      exact List.forall_mem_singleton.mpr h

theorem AllStand.attributes? {handle : Nat} {items : List Item} (h : AllStand e handle items)
    (above : List Nat) :
    ∀ n ∈ outlineItems above handle items, e.attributes? n.handle = some n.item.ownAttributes := by
  cases items with
  | nil => intro n hn; cases hn
  | cons item items =>
      rw [outlineItems, List.forall_mem_append]
      exact ⟨h.1.attributes? above, h.2.attributes? above⟩

end

/-- An editor that a document was opened in keeps the attributes of its items, each under
the handle that the item has in the document. -/
theorem perm_of_grown (h : Grown (start d) e .top [] d.items) :
    (d.outline.map fun n => (n.handle, n.item.ownAttributes)).Perm (e.live.map Live.label) := by
  have hhandles : d.outline.map Document.Node.handle = List.range' 0 (Item.sizes d.items) :=
    Document.handles_outlineItems [] 0 d.items
  have hnodup : (d.outline.map fun n => (n.handle, n.item.ownAttributes)).Nodup := by
    refine List.Nodup.of_map Prod.fst ?_
    rw [List.map_map]
    exact hhandles ▸ List.nodup_range'
  have hsubset : (d.outline.map fun n => (n.handle, n.item.ownAttributes)) ⊆
      e.live.map Live.label := by
    intro l hl
    obtain ⟨n, hn, rfl⟩ := List.mem_map.mp hl
    obtain ⟨item, hitem, hattributes⟩ :=
      Option.map_eq_some_iff.mp (AllStand.attributes? h.stand [] n hn)
    refine List.mem_map.mpr ⟨item, List.mem_of_find?_eq_some hitem, ?_⟩
    rw [Live.label, handle_of_find? hitem, hattributes]
  have hlength : (e.live.map Live.label).length = d.outline.length := by
    rw [List.length_map, h.count, ← List.length_map (f := Document.Node.handle), hhandles,
      List.length_range']
    exact Nat.zero_add _
  refine (hnodup.subperm hsubset).perm_of_length_le ?_
  rw [hlength, List.length_map]

/-- **A document without findings is opened as orderly attributes.** -/
theorem allOrderly_opened {source : Json} (h : Document.load source = .ok d)
    (hvalid : d.issues = .ok []) (husable : ∀ n ∈ d.outline, n.item.TypeUsable) :
    ∃ e, ofDocument d = .ok e ∧ e.version = .int d.version ∧
      AllOrderly (e.live.map Live.attributes) := by
  have hcheck := Validation.checkable_of_issues hvalid
  have hsound := Validation.sound_of_issues hvalid
  have hgenuine := Document.genuine_of_load h
  have hgenuine' := (Document.forall_outlineItems [] 0 d.items).mpr hgenuine.throughout
  have hobject := hsound.isObject hgenuine
  obtain ⟨e, hrun, hgrown⟩ := addable ((Document.forall_outlineItems [] 0 d.items).mp hobject)
    hgenuine ((Document.forall_outlineItems [] 0 d.items).mp husable)
    (start d) .top (fresh_start d) (before_top _)
  have hperm := (perm_of_grown hgrown).map Prod.snd
  rw [List.map_map, List.map_map] at hperm
  refine ⟨e, by rw [ofDocument_eq, hrun], hgrown.version, AllOrderly.perm ⟨?_, ?_⟩ hperm⟩
  · refine List.forall_mem_map.mpr fun n hn => ?_
    exact orderly_own (hobject n hn) (hgenuine' n hn) (hsound.fit hcheck n hn)
  · rw [List.flatMap_map]
    refine (congrArg List.Nodup (List.flatMap_congr fun n hn => ?_)).mpr hsound.nodup_written
    exact Item.written_of_account (account_itemOf_own (hobject n hn) (hgenuine' n hn))

/-! ### Reading back -/

/-- An item that holds no others stands alone in an outline. -/
theorem outlineItem_leaf {item : Item} (hleaf : item.IsLeaf) (above : List Nat) (handle : Nat) :
    outlineItem above handle item = [⟨handle, above, item⟩] := by
  cases item with
  | block | yesNo => exact hleaf.elim
  | info | tip | spacer | line | box | check | radio | radioGroup | checkGroup | unknown => rfl

theorem isLeaf_readLeaf (source : Json) : (Item.readLeaf source).IsLeaf := by
  unfold Item.readLeaf
  split <;> trivial

mutual

/-- The items of a tree in an outline are those of its nodes, save what stands under slots that
the type of a node does not have. -/
theorem sublist_outlineItem (above : List Nat) (first : Nat) (t : Tree) :
    ((outlineItem above first t.toItem).map (·.item)).Sublist (t.nodes.map toItem) := by
  cases t with
  | node handle attributes inside =>
      have hinside := fun slot above first => sublist_outlineItems above first (inside slot)
      have hnodes : (Tree.node handle attributes inside).nodes.map toItem =
          (Tree.node handle attributes inside).toItem :: ((allNodes (inside .items)).map toItem ++
            ((allNodes (inside .yes)).map toItem ++ (allNodes (inside .no)).map toItem)) := by
        simp [nodes_eq, Slot.all, Tree.inside]
      rw [hnodes, toItem]
      split
      · rw [outlineItem, List.map_cons]
        exact ((hinside .items _ _).trans (List.sublist_append_left _ _)).cons_cons _
      · rw [outlineItem, List.map_append, List.map_cons, List.cons_append]
        exact (((hinside .yes _ _).append (hinside .no _ _)).trans
          (List.sublist_append_right _ _)).cons_cons _
      · rw [outlineItem_leaf (isLeaf_readLeaf _)]
        exact (List.nil_sublist _).cons_cons _

theorem sublist_outlineItems (above : List Nat) (first : Nat) (ts : List Tree) :
    ((outlineItems above first (allToItem ts)).map (·.item)).Sublist
      ((allNodes ts).map toItem) := by
  cases ts with
  | nil => exact .refl _
  | cons t ts =>
      rw [allToItem, outlineItems, List.map_append, allNodes, List.map_append]
      exact (sublist_outlineItem above first t).append (sublist_outlineItems above _ ts)

end

/-- Trees whose attributes are all orderly make a document without findings. -/
theorem issues_allToItem {ts : List Tree}
    (h : AllOrderly ((allNodes ts).map Tree.attributes)) (version : Int) :
    Document.issues ⟨version, allToItem ts⟩ = .ok [] := by
  have hsublist := sublist_outlineItems [] 0 ts
  have hwritten : ∀ t : Tree, t.toItem.written = (itemOf t.attributes).written :=
    fun t => Item.written_of_account (account_toItem t)
  have hfit : ∀ n ∈ Document.outline ⟨version, allToItem ts⟩, n.item.Fit := by
    intro n hn
    obtain ⟨t, ht, heq⟩ := List.mem_map.mp (hsublist.subset (List.mem_map_of_mem hn))
    rw [← heq]
    exact (h.each _ (List.mem_map_of_mem ht)).fit.of_account (account_toItem t).symm
  have hnodup : ((Document.outline ⟨version, allToItem ts⟩).flatMap (·.item.written)).Nodup := by
    have hdistinct := h.distinct
    rw [List.flatMap_map, ← List.flatMap_congr fun t _ => hwritten t,
      ← List.flatMap_map toItem] at hdistinct
    have hpart := (hsublist.flatMap Item.written).nodup hdistinct
    rwa [List.flatMap_map] at hpart
  obtain ⟨issues, hissues, hexact⟩ := Validation.exact_issues fun n hn => (hfit n hn).checkable
  rw [hissues, hexact.eq_nil_iff.mpr (Validation.sound_of_fit hfit hnodup)]

/-- **An editor whose attributes are all orderly has no findings.** -/
theorem issues_of_allOrderly (h : Depicts e w) {version : Int} (hversion : e.version = .int version)
    (horderly : AllOrderly (e.live.map Live.attributes)) : e.issues = .ok [] := by
  have hperm := h.labels.map Prod.snd
  rw [List.map_map, Woods.labels, allLabels, List.map_map] at hperm
  have hroots : ((allNodes w.roots).map Tree.attributes).Sublist
      ((allNodes w.all).map Tree.attributes) := by
    rw [Woods.all, allNodes_append]
    exact (List.sublist_append_left _ _).map _
  have hissues := issues_allToItem ((horderly.perm hperm).sublist hroots) version
  rw [issues, h.toDocument_eq hversion]
  show (Document.issues ⟨version, allToItem w.roots⟩).mapError _ = _
  rw [hissues]
  rfl

end Editor

end Questionnaire
