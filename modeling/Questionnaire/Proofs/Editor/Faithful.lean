/-
What an opened document is in the editor.

A document counts its items in reading order and knows each list of children by the item that holds
it and a slot.  The editor counts the items as they are added and keeps the lists in a table of its
own.  `opened_faithful` says that both tell the same: every handle is there and stands at the same
place of the same list, the items are read in the same order, so that an id leads to the same item,
and what is written is the object that the document is written as.
-/
import Questionnaire.Proofs.Editor.Arranged
import Questionnaire.Proofs.Editor.Checking

namespace Questionnaire

open Editor (Place Slot)

namespace Document

/-! ### The lists of a document -/

/-- The handles under a slot of a node's item. -/
def Node.slotted (n : Node) (slot : Slot) : List Nat :=
  match n.item, slot with
  | .block _ _ items, .items => handlesFrom (n.handle + 1) items
  | .yesNo _ yes _, .yes => handlesFrom (n.handle + 1) yes
  | .yesNo _ yes no, .no => handlesFrom (n.handle + 1 + Item.sizes yes) no
  | _, _ => []

/-- The handles in a list of children of a document. -/
def listed (d : Document) (place : Place) : List Nat :=
  match place with
  | ⟨none, .items⟩ => d.roots
  | ⟨none, _⟩ => []
  | ⟨some handle, slot⟩ => (d.node? handle).elim [] (·.slotted slot)

theorem handlesFrom_append (handle : Nat) (items more : List Item) :
    handlesFrom handle (items ++ more) =
      handlesFrom handle items ++ handlesFrom (handle + Item.sizes items) more := by
  induction items generalizing handle with
  | nil => rfl
  | cons item items ih =>
      rw [List.cons_append, handlesFrom, ih, handlesFrom, Item.sizes, List.cons_append,
        Nat.add_assoc]

/-- What stands under the slots is what the item holds. -/
theorem Node.flatMap_slotted (n : Node) : Slot.all.flatMap n.slotted = n.children := by
  obtain ⟨handle, above, item⟩ := n
  cases item with
  | block text cond items => simp [Slot.all, slotted, children, Item.children]
  | yesNo q yes no =>
      simp [Slot.all, slotted, children, Item.children, handlesFrom_append]
  | info | tip | spacer | line | box | check | radio | radioGroup | checkGroup | unknown => rfl

/-- A node stands under a slot of a node that holds it. -/
def Node.Under (nodes : List Node) (n : Node) : Prop :=
  ∃ y ∈ nodes, ∃ slot, n.handle ∈ y.slotted slot ∧ n.parent = some y.handle

theorem Node.Under.mono {nodes more : List Node} {n : Node} (h : n.Under nodes)
    (hsub : nodes ⊆ more) : n.Under more := by
  obtain ⟨y, hy, hunder⟩ := h
  exact ⟨y, hsub hy, hunder⟩

mutual

theorem under_outlineItem (above : List Nat) (handle : Nat) (item : Item) :
    ∀ n ∈ outlineItem above handle item, n = ⟨handle, above, item⟩ ∨
      n.Under (outlineItem above handle item) := by
  cases item with
  | block text cond items =>
      have hitems := under_outlineItems (handle :: above) (handle + 1) items
      rw [outlineItem, List.forall_mem_cons]
      refine ⟨Or.inl rfl, fun n hn => Or.inr ?_⟩
      rcases hitems n hn with ⟨hroot, habove⟩ | hunder
      · exact ⟨_, List.mem_cons_self, .items, hroot, by rw [Node.parent, habove]; rfl⟩
      · exact hunder.mono (List.subset_cons_self _ _)
  | yesNo q yes no =>
      have hyes := under_outlineItems (handle :: above) (handle + 1) yes
      have hno := under_outlineItems (handle :: above) (handle + 1 + Item.sizes yes) no
      rw [outlineItem, List.cons_append, List.forall_mem_cons, List.forall_mem_append]
      refine ⟨Or.inl rfl, fun n hn => Or.inr ?_, fun n hn => Or.inr ?_⟩
      · rcases hyes n hn with ⟨hroot, habove⟩ | hunder
        · exact ⟨_, List.mem_cons_self, .yes, hroot, by rw [Node.parent, habove]; rfl⟩
        · exact hunder.mono
            (List.subset_cons_of_subset _ (List.subset_append_left _ _))
      · rcases hno n hn with ⟨hroot, habove⟩ | hunder
        · exact ⟨_, List.mem_cons_self, .no, hroot, by rw [Node.parent, habove]; rfl⟩
        · exact hunder.mono
            (List.subset_cons_of_subset _ (List.subset_append_right _ _))
  | info | tip | spacer | line | box | check | radio | radioGroup | checkGroup | unknown =>
      exact fun n hn => Or.inl (List.mem_singleton.mp hn)

theorem under_outlineItems (above : List Nat) (handle : Nat) (items : List Item) :
    ∀ n ∈ outlineItems above handle items,
      (n.handle ∈ handlesFrom handle items ∧ n.above = above) ∨
        n.Under (outlineItems above handle items) := by
  cases items with
  | nil => exact List.forall_mem_nil _
  | cons item items =>
      have hitem := under_outlineItem above handle item
      have hitems := under_outlineItems above (handle + item.size) items
      rw [outlineItems, List.forall_mem_append]
      refine ⟨fun n hn => ?_, fun n hn => ?_⟩
      · rcases hitem n hn with rfl | hunder
        · exact Or.inl ⟨List.mem_cons_self, rfl⟩
        · exact Or.inr (hunder.mono (List.subset_append_left _ _))
      · rcases hitems n hn with ⟨hroot, habove⟩ | hunder
        · exact Or.inl ⟨List.mem_cons_of_mem _ hroot, habove⟩
        · exact Or.inr (hunder.mono (List.subset_append_right _ _))

end

theorem walk_eq_range' (d : Document) : d.walk = List.range' 0 d.size :=
  handles_outlineItems [] 0 d.items

theorem length_outline (d : Document) : d.outline.length = d.size := by
  rw [← d.outline.length_map Node.handle, show d.outline.map Node.handle = _ from d.walk_eq_range',
    List.length_range']

/-- The handles of a document are the numbers below its size. -/
theorem exists_node_iff {d : Document} {k : Nat} :
    (∃ n ∈ d.outline, n.handle = k) ↔ k < d.size := by
  rw [← List.mem_map, show d.outline.map Node.handle = _ from d.walk_eq_range',
    List.mem_range'_1]
  omega

theorem listed_of_mem {d : Document} {n : Node} (hn : n ∈ d.outline) (slot : Slot) :
    d.listed ⟨some n.handle, slot⟩ = n.slotted slot := by
  rw [listed, node?_of_mem hn]
  rfl

theorem listed_of_not_mem {d : Document} {k : Nat} (hk : ¬∃ n ∈ d.outline, n.handle = k)
    (slot : Slot) : d.listed ⟨some k, slot⟩ = [] := by
  cases hnode : d.node? k with
  | none =>
      rw [listed, hnode]
      rfl
  | some n =>
      obtain ⟨hlt, -⟩ := List.getElem?_eq_some_iff.mp hnode
      rw [exists_node_iff, ← d.length_outline] at hk
      exact absurd hlt hk

/-- Every item stands in a list of what holds it. -/
theorem exists_mem_listed {d : Document} {n : Node} (hn : n ∈ d.outline) :
    ∃ slot, n.handle ∈ d.listed ⟨n.parent, slot⟩ := by
  rcases under_outlineItems [] 0 d.items n hn with ⟨hroot, habove⟩ | ⟨y, hy, slot, hmem, hparent⟩
  · exact ⟨.items, by rw [Node.parent, habove]; exact hroot⟩
  · exact ⟨slot, by rw [hparent, listed_of_mem hy]; exact hmem⟩

end Document

namespace Editor

open Document (handlesFrom outlineItem outlineItems Node)

variable {e : Editor} {d : Document}

/-! ### The lists of an editor -/

/-- The type of an item gives it the slots under which it holds anything. -/
theorem slotted_eq_nil {n : Node} {slot : Slot}
    (h : slot ∉ Slot.ofAttributes n.item.ownAttributes) : n.slotted slot = [] := by
  obtain ⟨handle, above, item⟩ := n
  have hblock (text : String) (cond : Json) (items : List Item) :
      Slot.ofAttributes (Item.block text cond items).ownAttributes = [.items] := rfl
  have hyesNo (q : Question) (yes no : List Item) :
      Slot.ofAttributes (Item.yesNo q yes no).ownAttributes = [.yes, .no] := rfl
  cases item with
  | block text cond items => cases slot <;> simp_all [Node.slotted]
  | yesNo q yes no => cases slot <;> simp_all [Node.slotted]
  | info | tip | spacer | line | box | check | radio | radioGroup | checkGroup | unknown => rfl

theorem children_eq_leaf {item : Item} (hleaf : item.IsLeaf) (hobject : item.toJson.isObject = true)
    (hgenuine : item.Genuine) (above : List Nat) (handle : Nat) :
    ∀ n ∈ outlineItem above handle item, ∀ slot ∈ Slot.ofAttributes n.item.ownAttributes,
      e.children ⟨some n.handle, slot⟩ = n.slotted slot := by
  rw [outlineItem_leaf hleaf, List.forall_mem_singleton, ofAttributes_leaf hleaf hobject hgenuine]
  exact List.forall_mem_nil _

mutual

/-- What stands in an editor has its children there under the slots that its type gives it. -/
theorem Stands.children_eq {item : Item} {handle : Nat}
    (hobject : item.Throughout (·.toJson.isObject = true)) (hgenuine : item.Genuine)
    (h : Stands e handle item) (above : List Nat) :
    ∀ n ∈ outlineItem above handle item, ∀ slot ∈ Slot.ofAttributes n.item.ownAttributes,
      e.children ⟨some n.handle, slot⟩ = n.slotted slot := by
  cases item with
  | block text cond items =>
      obtain ⟨-, hlist, hitems⟩ := h
      rw [outlineItem, List.forall_mem_cons]
      refine ⟨fun slot hslot => ?_, hitems.children_eq hobject.2 hgenuine _⟩
      obtain rfl := List.mem_singleton.mp hslot
      exact hlist
  | yesNo q yes no =>
      obtain ⟨-, ⟨hlist, hyes⟩, hlist', hno⟩ := h
      rw [outlineItem, List.forall_mem_append, List.forall_mem_cons]
      refine ⟨⟨fun slot hslot => ?_, hyes.children_eq hobject.2.1 hgenuine.1 _⟩,
        hno.children_eq hobject.2.2 hgenuine.2 _⟩
      have hslot' : slot ∈ [Slot.yes, .no] := hslot
      simp only [List.mem_cons, List.not_mem_nil, or_false] at hslot'
      rcases hslot' with rfl | rfl
      · exact hlist
      · exact hlist'
  | info | tip | spacer | line | box | check | radio | radioGroup | checkGroup | unknown =>
      refine children_eq_leaf ?_ hobject hgenuine above handle
      trivial

theorem AllStand.children_eq {items : List Item} {handle : Nat}
    (hobject : Item.AllThroughout (·.toJson.isObject = true) items)
    (hgenuine : Item.AllGenuine items) (h : AllStand e handle items) (above : List Nat) :
    ∀ n ∈ outlineItems above handle items, ∀ slot ∈ Slot.ofAttributes n.item.ownAttributes,
      e.children ⟨some n.handle, slot⟩ = n.slotted slot := by
  cases items with
  | nil => exact List.forall_mem_nil _
  | cons item items =>
      rw [outlineItems, List.forall_mem_append]
      exact ⟨h.1.children_eq hobject.1 hgenuine.1 above, h.2.children_eq hobject.2 hgenuine.2 above⟩

end

/-! ### Reading order -/

theorem descend_leaf {item : Item} (hleaf : item.IsLeaf) (hobject : item.toJson.isObject = true)
    (hgenuine : item.Genuine) {handle : Nat} (h : e.attributes? handle = some item.ownAttributes)
    (depth : Nat) : e.descend (depth + 1) handle = [handle] := by
  rw [descend, places_of_attributes? h, ofAttributes_leaf hleaf hobject hgenuine]
  rfl

mutual

/-- An item that stands in an editor is followed down through its handles in order. -/
theorem Stands.descend_eq {item : Item} {handle : Nat}
    (hobject : item.Throughout (·.toJson.isObject = true)) (hgenuine : item.Genuine)
    (h : Stands e handle item) {depth : Nat} (hdepth : item.size ≤ depth) :
    e.descend depth handle = List.range' handle item.size := by
  obtain ⟨depth, rfl⟩ : ∃ k, depth = k + 1 := by
    refine Nat.exists_eq_succ_of_ne_zero ?_
    have hsize : 0 < item.size := by cases item <;> simp [Item.size]
    omega
  cases item with
  | block text cond items =>
      obtain ⟨hown, hlist, hitems⟩ := h
      have hinside := hitems.descend_eq hobject.2 hgenuine (Nat.le_of_succ_le_succ hdepth)
      have hslots : Slot.ofAttributes (Item.block text cond items).ownAttributes = [.items] := rfl
      rw [descend, places_of_attributes? hown, hslots]
      simp only [List.map_cons, List.map_nil, List.flatMap_cons, List.flatMap_nil,
        List.append_nil, hlist, hinside, Item.size]
      rw [List.range'_succ]
  | yesNo q yes no =>
      obtain ⟨hown, ⟨hlist, hyes⟩, hlist', hno⟩ := h
      have hsize : Item.sizes yes + Item.sizes no ≤ depth := Nat.le_of_succ_le_succ hdepth
      have hinside := hyes.descend_eq hobject.2.1 hgenuine.1 (show _ ≤ depth by omega)
      have hinside' := hno.descend_eq hobject.2.2 hgenuine.2 (show _ ≤ depth by omega)
      have hslots : Slot.ofAttributes (Item.yesNo q yes no).ownAttributes = [.yes, .no] := rfl
      rw [descend, places_of_attributes? hown, hslots]
      simp only [List.map_cons, List.map_nil, List.flatMap_cons, List.flatMap_nil,
        List.append_nil, hlist, hlist', hinside, hinside', Item.size]
      rw [List.range'_succ, List.range'_append_1]
  | info | tip | spacer | line | box | check | radio | radioGroup | checkGroup | unknown =>
      refine descend_leaf ?_ hobject hgenuine h depth
      trivial

theorem AllStand.descend_eq {items : List Item} {handle : Nat}
    (hobject : Item.AllThroughout (·.toJson.isObject = true) items)
    (hgenuine : Item.AllGenuine items) (h : AllStand e handle items) {depth : Nat}
    (hdepth : Item.sizes items ≤ depth) :
    (handlesFrom handle items).flatMap (e.descend depth) =
      List.range' handle (Item.sizes items) := by
  cases items with
  | nil => rfl
  | cons item items =>
      have hsizes : Item.sizes (item :: items) = item.size + Item.sizes items := rfl
      have hitem := h.1.descend_eq hobject.1 hgenuine.1 (show _ ≤ depth by omega)
      have hitems := h.2.descend_eq hobject.2 hgenuine.2 (show _ ≤ depth by omega)
      rw [handlesFrom, List.flatMap_cons, hitem, hitems, hsizes, List.range'_append_1]

end

/-! ### Ids -/

/-- An item of a known type has a text as its id. -/
theorem id_eq_idText {item : Item} (hknown : ∀ type source, item ≠ .unknown type source) :
    item.id = .str item.idText := by
  have hid : ∃ id : String, item.id = .str id := by
    cases item with
    | unknown type source => exact absurd rfl (hknown type source)
    | block | info | tip | spacer | line | box | check | yesNo | radio | radioGroup | checkGroup =>
        exact ⟨_, rfl⟩
  obtain ⟨id, hid⟩ := hid
  by_cases hempty : id = "" <;> simp [Item.idText, hid, hempty, Json.truthy, Json.str?]

/-- The id that is looked for among the attributes of an item is the id of the item. -/
theorem sameAs_own_id {item : Item} (hobject : item.toJson.isObject = true) {x : String}
    (hx : x ≠ "") :
    Json.sameAs (item.ownAttributes.get? "id") (.str x) = item.id.equal (.str x) := by
  by_cases hknown : ∀ type source, item ≠ .unknown type source
  · have hown : item.ownAttributes.get? "id" = _ := hasId_own hknown
    rw [hown, id_eq_idText hknown]
    by_cases hempty : item.idText = ""
    · rw [if_pos hempty, hempty]
      exact (beq_eq_false_iff_ne.mpr (Ne.symm hx)).symm
    · rw [if_neg hempty]
      rfl
  · obtain ⟨type, source, rfl⟩ : ∃ type source, item = .unknown type source := by
      simpa using hknown
    cases source with
    | obj ms =>
        show Json.equal ((Entries.get? ms "id").getD .null) _ =
          Json.equal ((Entries.get? ms "id").getD _) _
        cases Entries.get? ms "id" with
        | none => exact (beq_eq_false_iff_ne.mpr (Ne.symm hx)).symm
        | some id => rfl
    | null | bool | int | float | str | arr => cases hobject

/-! ### Opening -/

/-- What an editor is after the items of a document were put into it. -/
structure Holds (e : Editor) (d : Document) : Prop where
  grown : Grown (start d) e .top [] d.items
  objects : ∀ n ∈ d.outline, n.item.toJson.isObject = true
  genuine : Item.AllGenuine d.items

namespace Holds

theorem stand (h : Holds e d) : AllStand e 0 d.items := h.grown.stand

theorem objects' (h : Holds e d) : Item.AllThroughout (·.toJson.isObject = true) d.items :=
  (Document.forall_outlineItems [] 0 d.items).mp h.objects

theorem attributes? (h : Holds e d) {n : Node} (hn : n ∈ d.outline) :
    e.attributes? n.handle = some n.item.ownAttributes :=
  AllStand.attributes? h.stand [] n hn

theorem live_length (h : Holds e d) : e.live.length = d.size := by
  rw [h.grown.count]
  exact Nat.zero_add _

theorem find?_isSome_iff (h : Holds e d) (k : Nat) :
    (e.find? k).isSome = true ↔ k < d.size := by
  constructor
  · intro hfound
    obtain ⟨item, hitem⟩ := Option.isSome_iff_exists.mp hfound
    have hlt := h.grown.fresh item (List.mem_of_find?_eq_some hitem)
    rw [handle_of_find? hitem, h.grown.next] at hlt
    exact (Nat.zero_add d.size) ▸ hlt
  · intro hk
    obtain ⟨n, hn, rfl⟩ := Document.exists_node_iff.mpr hk
    obtain ⟨item, hitem, -⟩ := Option.map_eq_some_iff.mp (h.attributes? hn)
    rw [hitem]
    rfl

theorem contains_iff (h : Holds e d) (k : Int) :
    e.contains k = true ↔ 0 ≤ k ∧ k < d.size := by
  rw [contains, Bool.and_eq_true, decide_eq_true_iff, h.find?_isSome_iff]
  omega

/-- A list of children belongs to a node, by a slot that its type gives it. -/
theorem owner (h : Holds e d) (harranged : Arranged e) {k : Nat} {slot : Slot}
    (hlist : (e.list? ⟨some k, slot⟩).isSome = true) :
    ∃ n ∈ d.outline, n.handle = k ∧ slot ∈ Slot.ofAttributes n.item.ownAttributes := by
  rcases harranged.owned _ hlist with htop | ⟨item, hitem, other, hother, hplace⟩
  · cases htop
  · obtain ⟨rfl, rfl⟩ : k = item.handle ∧ slot = other := by simpa using hplace
    have hfound : e.find? item.handle = some item := find?_of_nodup harranged.handles hitem
    obtain ⟨n, hn, hhandle⟩ := Document.exists_node_iff.mpr
      ((h.find?_isSome_iff item.handle).mp (by rw [hfound]; rfl))
    have hattributes := h.attributes? hn
    rw [hhandle, Editor.attributes?, hfound] at hattributes
    exact ⟨n, hn, hhandle, Option.some.inj hattributes ▸ hother⟩

/-- **The lists of children are those of the document**, and there are no others. -/
theorem children_eq_listed (h : Holds e d) (harranged : Arranged e) (place : Place) :
    e.children place = d.listed place := by
  have hempty : (e.list? place).isSome ≠ true → e.children place = [] := by
    intro hnone
    rw [children, Option.not_isSome_iff_eq_none.mp hnone]
    rfl
  obtain ⟨_ | k, slot⟩ := place
  · cases slot with
    | items => exact h.grown.here
    | yes | no =>
        refine hempty fun hlist => ?_
        rcases harranged.owned _ hlist with htop | ⟨item, -, other, -, hplace⟩
        · cases htop
        · cases hplace
  · by_cases hk : ∃ n ∈ d.outline, n.handle = k
    · obtain ⟨n, hn, rfl⟩ := hk
      rw [Document.listed_of_mem hn]
      by_cases hslot : slot ∈ Slot.ofAttributes n.item.ownAttributes
      · exact h.stand.children_eq h.objects' h.genuine [] n hn slot hslot
      · rw [slotted_eq_nil hslot]
        refine hempty fun hlist => ?_
        obtain ⟨m, hm, hhandle, hmem⟩ := h.owner harranged hlist
        exact hslot (Document.node_inj hm hn hhandle ▸ hmem)
    · rw [Document.listed_of_not_mem hk]
      refine hempty fun hlist => ?_
      obtain ⟨n, hn, hhandle, -⟩ := h.owner harranged hlist
      exact hk ⟨n, hn, hhandle⟩

/-- Every item is recorded in a list of what holds it, and stands there. -/
theorem located (h : Holds e d) {w : Woods} (hw : Depicts e w) {n : Node} (hn : n ∈ d.outline) :
    ∃ slot i, e.location n.handle = .ok (⟨n.parent, slot⟩, i) ∧
      (d.listed ⟨n.parent, slot⟩)[i]? = some n.handle := by
  obtain ⟨slot, hlisted⟩ := Document.exists_mem_listed hn
  rw [← h.children_eq_listed hw.arranged] at hlisted
  obtain ⟨item, hitem, hplace⟩ := Option.map_eq_some_iff.mp (hw.placeOf?_of_mem hlisted)
  have hhandle := handle_of_find? hitem
  rw [← hhandle] at hitem hlisted
  rw [← hplace] at hlisted
  obtain ⟨i, hlocation, hat⟩ := location_of_mem hitem hlisted
  rw [hhandle, hplace] at hlocation hat
  rw [h.children_eq_listed hw.arranged] at hat
  exact ⟨slot, i, hlocation, hat⟩

/-- Reading from the top follows the handles in order. -/
theorem reading (h : Holds e d) :
    (e.children .top).flatMap e.subtree = d.outline.map Node.handle := by
  have htop : e.children .top = handlesFrom 0 d.items := h.grown.here
  have hwalk : d.outline.map Node.handle = List.range' 0 d.size := d.walk_eq_range'
  rw [htop, hwalk]
  exact h.stand.descend_eq h.objects' h.genuine (Nat.le_of_eq h.live_length.symm)

/-- An id that is not empty leads to the same item. -/
theorem handleOf_eq (h : Holds e d) {x : String} (hx : x ≠ "") :
    e.handleOf (.str x) =
      match d.find? (.str x) with
      | some n => .ok n.handle
      | none => .error (.notFound "Item" (.str x)) := by
  have hsame : ∀ n ∈ d.outline, ((e.find? n.handle).any fun item =>
      Json.sameAs (item.attributes.get? "id") (.str x)) = n.item.id.equal (.str x) := by
    intro n hn
    obtain ⟨item, hitem, hattributes⟩ := Option.map_eq_some_iff.mp (h.attributes? hn)
    rw [hitem, Option.any_some, hattributes, sameAs_own_id (h.objects n hn) hx]
  have hfind : ((e.children .top).flatMap e.subtree).find? (fun k => (e.find? k).any fun item =>
      Json.sameAs (item.attributes.get? "id") (.str x)) =
        (d.outline.find? (·.item.id.equal (.str x))).map Node.handle := by
    rw [h.reading, List.find?_map, ← List.head?_filter, ← List.head?_filter]
    exact congrArg (fun nodes => nodes.head?.map Node.handle) (List.filter_congr hsame)
  have htruthy : (Json.str x).truthy = true := decide_eq_true hx
  rw [handleOf, hfind, Document.find?, if_pos htruthy]
  cases d.outline.find? (·.item.id.equal (.str x)) <;> rfl

end Holds

/-- A document of objects with usable types is opened. -/
theorem exists_holds {source : Json} (h : Document.load source = .ok d)
    (hobject : ∀ n ∈ d.outline, n.item.toJson.isObject = true)
    (husable : ∀ n ∈ d.outline, n.item.TypeUsable) :
    ∃ e, ofDocument d = .ok e ∧ Holds e d := by
  have hgenuine := Document.genuine_of_load h
  obtain ⟨e, hrun, hgrown⟩ := addable ((Document.forall_outlineItems [] 0 d.items).mp hobject)
    hgenuine ((Document.forall_outlineItems [] 0 d.items).mp husable)
    (start d) .top (fresh_start d) (before_top _)
  exact ⟨e, by rw [ofDocument_eq, hrun], hgrown, hobject, hgenuine⟩

/-- **Opening a document for editing loses nothing.**  Let a document be read from a text or a
value, all its items be objects and none have a list or an object as its type.  Then it is opened.
The handles of the editor are those of the document; its lists of children are those of the
document, and each item is located in a list of what holds it, at the position that it has there.
What is written is the object that the document is written as, and an id that is not empty leads to
the item that it leads to in the document, or to none. -/
theorem opened_faithful {source : Json} (h : Document.load source = .ok d)
    (hobject : ∀ n ∈ d.outline, n.item.toJson.isObject = true)
    (husable : ∀ n ∈ d.outline, n.item.TypeUsable) :
    ∃ e, ofDocument d = .ok e ∧
      (∀ k : Int, e.contains k = true ↔ 0 ≤ k ∧ k < d.size) ∧
      (∀ place, e.children place = d.listed place) ∧
      (∀ n ∈ d.outline, ∃ slot i, e.location n.handle = .ok (⟨n.parent, slot⟩, i) ∧
        (d.listed ⟨n.parent, slot⟩)[i]? = some n.handle) ∧
      e.toJson = d.toJson ∧
      ∀ x : String, x ≠ "" → e.handleOf (.str x) =
        match d.find? (.str x) with
        | some n => .ok n.handle
        | none => .error (.notFound "Item" (.str x)) := by
  obtain ⟨e, hopened, hholds⟩ := exists_holds h hobject husable
  obtain ⟨w, hw, -⟩ := (Opened.document hopened).depicts
  obtain ⟨_, hopened', hwritten⟩ := ofDocument_of_usable hobject hholds.genuine husable
  obtain rfl := Except.ok.inj (hopened.symm.trans hopened')
  exact ⟨e, hopened, hholds.contains_iff, hholds.children_eq_listed hw.arranged,
    fun n hn => hholds.located hw hn, hwritten, fun x hx => hholds.handleOf_eq hx⟩

/-- A question in a block, with an item of a type that is not known under one of its answers. -/
def nested : Entries Json :=
  [("items", .arr [.obj [("type", .str "block"), ("items", .arr [
      .obj [("type", .str "yesno"), ("id", .str "q"), ("yes", .arr [.obj [("type", .str "info")]]),
        ("no", .arr [.obj [("type", .str "map"), ("id", .str "m"), ("items", .arr [])]])]])],
    .obj [("type", .str "line"), ("id", .str "m")]])]

def withNested : Document :=
  ⟨1, [.block "" .null [.yesNo ⟨"q", "", false, .null⟩ [.info "" .null]
      [.unknown "map" (.obj [("type", .str "map"), ("id", .str "m"), ("items", .arr [])])]],
    .line ⟨"m", "", false, .null⟩ none]⟩

theorem opened_faithful_nested :
    Document.load (.obj nested) = .ok withNested ∧
      (∀ n ∈ withNested.outline, n.item.toJson.isObject = true) ∧
      (∀ n ∈ withNested.outline, n.item.TypeUsable) ∧
      ∃ e, ofDocument withNested = .ok e ∧ (e.contains 4 = true ∧ e.contains 5 = false) ∧
        (e.children .top = [0, 4] ∧ e.children ⟨some 0, .items⟩ = [1] ∧
          e.children ⟨some 1, .yes⟩ = [2] ∧ e.children ⟨some 1, .no⟩ = [3] ∧
          e.children ⟨some 3, .items⟩ = []) ∧
        e.toJson = withNested.toJson ∧ e.handleOf (.str "m") = .ok 3 := by
  have hload : Document.load (.obj nested) = .ok withNested := rfl
  have hobject : ∀ n ∈ withNested.outline, n.item.toJson.isObject = true := by
    refine (Document.forall_outlineItems (P := (·.toJson.isObject = true)) [] 0 _).mpr ?_
    exact ⟨⟨rfl, ⟨rfl, ⟨rfl, trivial⟩, rfl, trivial⟩, trivial⟩, rfl, trivial⟩
  have husable : ∀ n ∈ withNested.outline, n.item.TypeUsable := by
    rw [Document.outline, Document.forall_outlineItems]
    exact ⟨⟨⟨_, rfl⟩, ⟨⟨_, rfl⟩, ⟨⟨_, rfl⟩, trivial⟩, ⟨_, rfl⟩, trivial⟩, trivial⟩, ⟨_, rfl⟩,
      trivial⟩
  obtain ⟨e, hopened, hhandles, hlists, -, hwritten, hids⟩ :=
    opened_faithful hload hobject husable
  refine ⟨hload, hobject, husable, e, hopened, ⟨(hhandles 4).mpr (by decide), ?_⟩,
    ⟨hlists _, hlists _, hlists _, hlists _, hlists _⟩, hwritten, hids "m" (by decide)⟩
  exact Bool.eq_false_iff.mpr fun hcontains => absurd ((hhandles 5).mp hcontains).2 (by decide)

end Editor

end Questionnaire
