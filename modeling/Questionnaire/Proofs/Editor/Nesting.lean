/-
Putting a new item under another one.

An item holds others under the slots of its type, `Item.under?`.  `Document.mapAt` is a document in
which what one item holds under one slot is changed; nothing else is, and the item stays in its
place, `mem_outline_mapAt`.  An editor that a document stands in does just that when a new item is
put under another: what it shows then is read as the document in which one list has one more item,
`Drafted.run_add_under`.  A slot that the other item does not have is refused,
`Drafted.place_under_of_none`.

As for the top level the two are compared on trees, where the list at a place is changed by
`editAll`.
-/
import Questionnaire.Proofs.Editor.Placing

namespace Questionnaire

open Editor (Slot Position)

namespace Item

/-- The items that an item holds under a slot; none where its type does not have the slot. -/
def under? : Item → Slot → Option (List Item)
  | .block _ _ items, .items => some items
  | .yesNo _ yes _, .yes => some yes
  | .yesNo _ _ no, .no => some no
  | _, _ => none

/-- An item with a change to what it holds under a slot. -/
def mapUnder (slot : Slot) (f : List Item → List Item) : Item → Item
  | .block text cond items => .block text cond (if slot = .items then f items else items)
  | .yesNo q yes no =>
    .yesNo q (if slot = .yes then f yes else yes) (if slot = .no then f no else no)
  | item => item

mutual

/-- An item, counted from its own handle on, with a change to what is held under a slot of the one
that has a handle. -/
def mapAt (k : Nat) (slot : Slot) (f : List Item → List Item) (first : Nat) : Item → Item
  | .block text cond items =>
    if first = k then mapUnder slot f (.block text cond items)
    else .block text cond (allMapAt k slot f (first + 1) items)
  | .yesNo q yes no =>
    if first = k then mapUnder slot f (.yesNo q yes no)
    else .yesNo q (allMapAt k slot f (first + 1) yes)
      (allMapAt k slot f (first + 1 + sizes yes) no)
  | item => item

/-- The same for items that stand side by side. -/
def allMapAt (k : Nat) (slot : Slot) (f : List Item → List Item) (first : Nat) :
    List Item → List Item
  | [] => []
  | item :: items => item.mapAt k slot f first :: allMapAt k slot f (first + item.size) items

end

/-- Items with one more behind the first so many. -/
def insertAt (k : Nat) (item : Item) (items : List Item) : List Item :=
  items.take k ++ item :: items.drop k

variable {k : Nat} {slot : Slot} {f : List Item → List Item} {item : Item} {held : List Item}

/-! ### What is held under a slot -/

@[simp] theorem under?_mapUnder (slot : Slot) (f : List Item → List Item) (item : Item) :
    (item.mapUnder slot f).under? slot = (item.under? slot).map f := by
  cases item with
  | block | yesNo => cases slot <;> rfl
  | info | tip | spacer | line | box | check | radio | radioGroup | checkGroup | unknown => rfl

@[simp] theorem ownAttributes_mapUnder (slot : Slot) (f : List Item → List Item) (item : Item) :
    (item.mapUnder slot f).ownAttributes = item.ownAttributes := by
  cases item <;> rfl

theorem under?_settled (item : Item) (slot : Slot) :
    item.settled.under? slot = (item.under? slot).map allSettled := by
  cases item with
  | block | yesNo => cases slot <;> rfl
  | info | tip | spacer | line | box | check | radio | radioGroup | checkGroup | unknown => rfl

/-- What an item has of its own is the same after it was settled. -/
theorem ownAttributes_settled (item : Item) : item.settled.ownAttributes = item.ownAttributes := by
  have hwritten := congrArg Json.members (toJson_settled item)
  cases item with
  | block text cond items => simp [settled, ownAttributes]
  | yesNo q yes no =>
      have hfields : questionFields q.settled none = questionFields q none :=
        questionFields_settled q none
      simp [settled, ownAttributes, hfields]
  | info | tip | spacer | line | box | check | radio | radioGroup | checkGroup | unknown =>
      exact hwritten

/-- An item holds something under a slot that its type gives it. -/
theorem mem_slots_of_under? (h : item.under? slot = some held) :
    slot ∈ Slot.ofAttributes item.ownAttributes := by
  cases item with
  | block text cond items =>
      cases slot with
      | items => exact List.mem_singleton_self _
      | yes | no => cases h
  | yesNo q yes no =>
      have hslots : Slot.ofAttributes (Item.yesNo q yes no).ownAttributes = [.yes, .no] := rfl
      rw [hslots]
      cases slot with
      | items => cases h
      | yes | no => decide
  | info | tip | spacer | line | box | check | radio | radioGroup | checkGroup | unknown => cases h

theorem not_mem_slots_of_under? (hobject : item.toJson.isObject = true) (hgenuine : item.Genuine)
    (h : item.under? slot = none) : slot ∉ Slot.ofAttributes item.ownAttributes := by
  cases item with
  | block text cond items =>
      have hslots : Slot.ofAttributes (Item.block text cond items).ownAttributes = [.items] := rfl
      rw [hslots, List.mem_singleton]
      rintro rfl
      cases h
  | yesNo q yes no =>
      have hslots : Slot.ofAttributes (Item.yesNo q yes no).ownAttributes = [.yes, .no] := rfl
      rw [hslots]
      cases slot with
      | items => decide
      | yes | no => cases h
  | info | tip | spacer | line | box | check | radio | radioGroup | checkGroup | unknown =>
      rw [Editor.ofAttributes_leaf ?_ hobject hgenuine]
      · exact List.not_mem_nil
      · trivial

/-! ### A change somewhere inside -/

theorem length_allSettled (items : List Item) : (allSettled items).length = items.length := by
  induction items with
  | nil => rfl
  | cons item items ih => rw [allSettled, List.length_cons, ih, List.length_cons]

theorem length_allMapAt (k : Nat) (slot : Slot) (f : List Item → List Item) (first : Nat)
    (items : List Item) : (allMapAt k slot f first items).length = items.length := by
  induction items generalizing first with
  | nil => rfl
  | cons item items ih => rw [allMapAt, List.length_cons, ih, List.length_cons]

mutual

theorem mapAt_of_outside {first : Nat} {item : Item} (h : k < first ∨ first + item.size ≤ k) :
    item.mapAt k slot f first = item := by
  cases item with
  | block text cond items =>
      rw [size] at h
      have hitems : allMapAt k slot f (first + 1) items = items :=
        allMapAt_of_outside (by omega)
      rw [mapAt, if_neg (by omega), hitems]
  | yesNo q yes no =>
      rw [size] at h
      have hyes : allMapAt k slot f (first + 1) yes = yes := allMapAt_of_outside (by omega)
      have hno : allMapAt k slot f (first + 1 + sizes yes) no = no :=
        allMapAt_of_outside (by omega)
      rw [mapAt, if_neg (by omega), hyes, hno]
  | info | tip | spacer | line | box | check | radio | radioGroup | checkGroup | unknown => rfl

/-- Items among which the handle is not are left as they are. -/
theorem allMapAt_of_outside {first : Nat} {items : List Item}
    (h : k < first ∨ first + sizes items ≤ k) : allMapAt k slot f first items = items := by
  cases items with
  | nil => rfl
  | cons item items =>
      rw [sizes] at h
      have hitem : item.mapAt k slot f first = item := mapAt_of_outside (by omega)
      have hitems : allMapAt k slot f (first + item.size) items = items :=
        allMapAt_of_outside (by omega)
      rw [allMapAt, hitem, hitems]

end

theorem mapAt_self (slot : Slot) (f : List Item → List Item) (first : Nat) (item : Item) :
    item.mapAt first slot f first = item.mapUnder slot f := by
  cases item with
  | block | yesNo => rw [mapAt, if_pos rfl]
  | info | tip | spacer | line | box | check | radio | radioGroup | checkGroup | unknown => rfl

end Item

namespace Document

open Item (allMapAt mapAt_of_outside allMapAt_of_outside mapAt_self)

/-- The document with a change to what the item with a handle holds under a slot. -/
def mapAt (d : Document) (k : Nat) (slot : Slot) (f : List Item → List Item) : Document :=
  { d with items := allMapAt k slot f 0 d.items }

theorem length_handlesFrom (first : Nat) (items : List Item) :
    (handlesFrom first items).length = items.length := by
  induction items generalizing first with
  | nil => rfl
  | cons item items ih => rw [handlesFrom, List.length_cons, ih, List.length_cons]

/-- A node has as many children under a slot as its item holds there. -/
theorem length_slotted {n : Node} {slot : Slot} {held : List Item}
    (h : n.item.under? slot = some held) : (n.slotted slot).length = held.length := by
  obtain ⟨handle, above, item⟩ := n
  cases item with
  | block | yesNo => cases slot <;> cases h <;> exact length_handlesFrom _ _
  | info | tip | spacer | line | box | check | radio | radioGroup | checkGroup | unknown => cases h

/-- A node whose item has a change to what it holds under a slot. -/
def Node.mapUnder (slot : Slot) (f : List Item → List Item) (n : Node) : Node :=
  { n with item := n.item.mapUnder slot f }

variable {slot : Slot} {f : List Item → List Item} {n : Node}

theorem self_mem_outlineItem (above : List Nat) (first : Nat) (item : Item) :
    ⟨first, above, item⟩ ∈ outlineItem above first item := by
  cases item with
  | block | yesNo => exact List.mem_cons_self
  | info | tip | spacer | line | box | check | radio | radioGroup | checkGroup | unknown =>
      exact List.mem_singleton_self _

mutual

theorem mem_outlineItem_mapAt {above : List Nat} {first : Nat} {item : Item}
    (hn : n ∈ outlineItem above first item) :
    n.mapUnder slot f ∈ outlineItem above first (item.mapAt n.handle slot f first) := by
  cases item with
  | block text cond items =>
      rcases List.mem_cons.mp hn with rfl | hitems
      · rw [mapAt_self]
        exact self_mem_outlineItem above first _
      · have hmem := mem_outlineItems_allMapAt hitems
        have hhandle := (handle_outlineItems hitems).1
        rw [Item.mapAt, if_neg (by omega)]
        exact List.mem_cons_of_mem _ hmem
  | yesNo q yes no =>
      rw [outlineItem, List.cons_append, List.mem_cons, List.mem_append] at hn
      rcases hn with rfl | hyes | hno
      · rw [mapAt_self]
        exact self_mem_outlineItem above first _
      · have hmem := mem_outlineItems_allMapAt hyes
        have hhandle := (handle_outlineItems hyes).1
        rw [Item.mapAt, if_neg (by omega), outlineItem, List.cons_append]
        exact List.mem_cons_of_mem _ (List.mem_append_left _ hmem)
      · have hmem := mem_outlineItems_allMapAt hno
        have hhandle := (handle_outlineItems hno).1
        have hyes : allMapAt n.handle slot f (first + 1) yes = yes :=
          allMapAt_of_outside (Or.inr hhandle)
        rw [Item.mapAt, if_neg (by omega), hyes, outlineItem, List.cons_append]
        exact List.mem_cons_of_mem _ (List.mem_append_right _ hmem)
  | info | tip | spacer | line | box | check | radio | radioGroup | checkGroup | unknown =>
      obtain rfl := List.mem_singleton.mp hn
      exact List.mem_singleton_self _

theorem mem_outlineItems_allMapAt {above : List Nat} {first : Nat} {items : List Item}
    (hn : n ∈ outlineItems above first items) :
    n.mapUnder slot f ∈ outlineItems above first (allMapAt n.handle slot f first items) := by
  cases items with
  | nil => cases hn
  | cons item items =>
      rw [allMapAt, mem_outlineItems_cons]
      rcases mem_outlineItems_cons.mp hn with hitem | hitems
      · exact Or.inl (mem_outlineItem_mapAt hitem)
      · have hmem := mem_outlineItems_allMapAt hitems
        have hitem : item.mapAt n.handle slot f first = item :=
          mapAt_of_outside (Or.inr (handle_outlineItems hitems).1)
        rw [hitem]
        exact Or.inr hmem

end

/-- **The item whose list is changed stays in its place,** with the change. -/
theorem mem_outline_mapAt {d : Document} (hn : n ∈ d.outline) (slot : Slot)
    (f : List Item → List Item) : n.mapUnder slot f ∈ (d.mapAt n.handle slot f).outline :=
  mem_outlineItems_allMapAt hn

/-- A document that takes one more item under a slot of a node, behind so many others: nothing else
of it is changed, the node stays in its place with what it has of its own, and there are as many
items at the top as before. -/
structure Takes (d after : Document) (n : Node) (slot : Slot) (k : Nat) (item : Item) : Prop where
  changed : after = d.settled.mapAt n.handle slot (Item.insertAt k item)
  top : after.items.length = d.items.length
  node : ∃ m ∈ after.outline, m.handle = n.handle ∧ m.above = n.above ∧
    m.item.ownAttributes = n.item.ownAttributes ∧
    m.item.under? slot = (n.item.under? slot).map fun held =>
      (Item.allSettled held).take k ++ item :: (Item.allSettled held).drop k

theorem takes_mapAt {d : Document} (hn : n ∈ d.outline) (slot : Slot) (k : Nat) (item : Item) :
    d.Takes (d.settled.mapAt n.handle slot (Item.insertAt k item)) n slot k item := by
  have hsettled : n.settled ∈ d.settled.outline := by
    rw [outline_settled]
    exact List.mem_map_of_mem hn
  refine ⟨rfl, ?_, _, mem_outline_mapAt hsettled slot (Item.insertAt k item), rfl, rfl, ?_, ?_⟩
  · exact (Item.length_allMapAt _ _ _ _ _).trans (Item.length_allSettled d.items)
  · exact (Item.ownAttributes_mapUnder _ _ _).trans (Item.ownAttributes_settled n.item)
  · have hunder := Item.under?_mapUnder slot (Item.insertAt k item) n.item.settled
    rw [Item.under?_settled, Option.map_map] at hunder
    exact hunder

end Document

namespace Editor

open Questionnaire.Editor.Tree
open Document (Node)

namespace Tree

variable {slot : Slot} {f : List Item → List Item} {g : List Tree → List Tree}

/-- Trees with one more behind the first so many. -/
def insertAt (k : Nat) (t : Tree) (ts : List Tree) : List Tree := ts.take k ++ t :: ts.drop k

/-- One more tree stands for one more item at the same position. -/
theorem allToItem_insertAt (k : Nat) (t : Tree) (ts : List Tree) :
    allToItem (insertAt k t ts) = Item.insertAt k t.toItem (allToItem ts) := by
  simp only [insertAt, Item.insertAt, allToItem_eq_map, List.map_append, List.map_cons,
    List.map_take, List.map_drop]

/-- What a node holds does not matter where its type has no slots. -/
theorem toItem_of_no_slots {attributes : Entries Json} (h : Slot.ofAttributes attributes = [])
    (first : Nat) (inside : Slot → List Tree) :
    toItem (.node first attributes inside) = itemOf attributes := by
  rcases Slot.ofAttributes_cases attributes with ⟨-, hslots⟩ | ⟨-, hslots⟩ | ⟨hblock, hyesNo, -⟩
  · rw [h] at hslots
    cases hslots
  · rw [h] at hslots
    cases hslots
  · rw [itemOf, leaf, toItem, toItem]
    split
    · next heq => exact absurd heq hblock
    · next heq => exact absurd heq hyesNo
    · rfl

theorem toItem_edit_leaf {item : Item} (hleaf : item.IsLeaf)
    (hobject : item.toJson.isObject = true) (hgenuine : item.Genuine) (k first : Nat) :
    ((ofItem first item).edit k slot g).toItem = item.settled.mapAt k slot f first := by
  have hslots := ofAttributes_leaf hleaf hobject hgenuine
  have hself := toItem_ofItem_leaf hleaf hobject hgenuine first
  have hsame : item.settled.mapAt k slot f first = item.settled := by
    cases item with
    | block | yesNo => exact hleaf.elim
    | info | tip | spacer | line | box | check | radio | radioGroup | checkGroup | unknown => rfl
  rw [ofItem_leaf hleaf, toItem_leaf] at hself
  rw [ofItem_leaf hleaf, leaf, edit, toItem_of_no_slots hslots, hself, hsame]

mutual

/-- A change to the list at a node of the tree of an item stands for a change to what is held
there. -/
theorem toItem_edit {item : Item} (hobject : item.Throughout (·.toJson.isObject = true))
    (hgenuine : item.Genuine) (hchange : ∀ ts, allToItem (g ts) = f (allToItem ts))
    (k first : Nat) :
    ((ofItem first item).edit k slot g).toItem = item.settled.mapAt k slot f first := by
  cases item with
  | block text cond items =>
      have hsame := allToItem_ofItems hobject.2 hgenuine (first + 1)
      have hitems := allToItem_editAll hobject.2 hgenuine hchange k (first + 1)
      rw [ofItem, edit, toItem_node_block, Item.settled, Item.mapAt]
      by_cases hk : first = k
      · simp only [if_pos hk, Item.mapUnder]
        cases slot <;> simp [filled, hchange, hsame]
      · simp only [if_neg hk, filled, hitems]
  | yesNo q yes no =>
      have hsameYes := allToItem_ofItems hobject.2.1 hgenuine.1 (first + 1)
      have hsameNo := allToItem_ofItems hobject.2.2 hgenuine.2 (first + 1 + Item.sizes yes)
      have hyes := allToItem_editAll hobject.2.1 hgenuine.1 hchange k (first + 1)
      have hno := allToItem_editAll hobject.2.2 hgenuine.2 hchange k
        (first + 1 + Item.sizes yes)
      rw [ofItem, edit, toItem_node_yesNo, Item.settled, Item.mapAt, Item.sizes_allSettled]
      by_cases hk : first = k
      · simp only [if_pos hk, Item.mapUnder]
        cases slot <;> simp [filled, hchange, hsameYes, hsameNo]
      · simp only [if_neg hk, filled, hyes, hno]
  | info | tip | spacer | line | box | check | radio | radioGroup | checkGroup | unknown =>
      refine toItem_edit_leaf ?_ hobject hgenuine k first
      trivial

theorem allToItem_editAll {items : List Item}
    (hobject : Item.AllThroughout (·.toJson.isObject = true) items)
    (hgenuine : Item.AllGenuine items) (hchange : ∀ ts, allToItem (g ts) = f (allToItem ts))
    (k first : Nat) :
    allToItem (editAll k slot g (ofItems first items)) =
      Item.allMapAt k slot f first (Item.allSettled items) := by
  cases items with
  | nil => rfl
  | cons item items =>
      have hitem := toItem_edit hobject.1 hgenuine.1 hchange k first
      have hitems := allToItem_editAll hobject.2 hgenuine.2 hchange k
        (first + item.size)
      rw [ofItems, editAll, allToItem, hitem, hitems, Item.allSettled, Item.allMapAt,
        Item.size_settled]

end

end Tree

/-! ### Under an item of the document -/

/-- A slot is found by its name among the slots of an item. -/
theorem find?_slot (attributes : Entries Json) (slot : Slot) :
    ((Slot.ofAttributes attributes).find? fun s => Json.equal (.str slot.name) (.str s.name)) =
      if slot ∈ Slot.ofAttributes attributes then some slot else none := by
  rcases Slot.ofAttributes_cases attributes with ⟨-, h⟩ | ⟨-, h⟩ | ⟨-, -, h⟩ <;> rw [h] <;>
    cases slot <;> simp [Json.equal, Slot.name]

/-- A slot of an item that is there is a place, and any other slot is refused. -/
theorem place_slot {e : Editor} {k : Nat} {attributes : Entries Json}
    (h : e.attributes? k = some attributes) (slot : Slot) :
    e.place (some (k : Int)) (.str slot.name) =
      if slot ∈ Slot.ofAttributes attributes then .ok ⟨some k, slot⟩
      else .error (.refused
        (.noSlot ((attributes.get? "type").getD .null).words (Json.str slot.name).words)) := by
  obtain ⟨item, hitem, rfl⟩ := Option.map_eq_some_iff.mp h
  simp only [Editor.place, require_of_find? hitem, bind, Except.bind, find?_slot]
  rw [handle_of_find? hitem]
  by_cases hslot : slot ∈ Slot.ofAttributes item.attributes
  · rw [if_pos hslot, if_pos hslot]
  · rw [if_neg hslot, if_neg hslot]

namespace Drafted

variable {e : Editor} {d : Document} {n : Node} {slot : Slot} {held : List Item}
  {name : String} {attributes : Entries Json} {position : Position}

/-- An id that no item of the document has leads nowhere. -/
theorem handleOf_of_absent (h : Drafted e d) {x : String} (hx : x ≠ "")
    (habsent : ∀ n ∈ d.outline, n.item.id ≠ .str x) :
    e.handleOf (.str x) = .error (.notFound "Item" (.str x)) := by
  have htruthy : (Json.str x).truthy = true := decide_eq_true hx
  have hnone : d.find? (.str x) = none := by
    rw [Document.find?, if_pos htruthy]
    exact List.find?_eq_none.mpr fun n hn hequal => habsent n hn (eq_str_of_equal hequal)
  rw [h.holds.handleOf_eq hx, hnone]

/-- No text leads to a block, which is read without its id. -/
theorem handleOf_ne_of_block (h : Drafted e d) (hn : n ∈ d.outline) {text : String} {cond : Json}
    {items : List Item} (hblock : n.item = .block text cond items) (x : String) :
    e.handleOf (.str x) ≠ .ok n.handle := by
  intro hfound
  obtain ⟨item, hitem, hattributes⟩ := Option.map_eq_some_iff.mp (h.holds.attributes? hn)
  have hid : item.attributes.get? "id" = none := by
    simp [hattributes, hblock, Item.ownAttributes, Entries.get?_cons, Entries.get?_append,
      Item.get?_field]
  unfold handleOf at hfound
  dsimp only at hfound
  split at hfound
  · next hfind =>
      cases hfound
      have hsame := List.find?_some hfind
      rw [hitem, Option.any_some, hid] at hsame
      cases hsame
  · cases hfound

theorem place_under (h : Drafted e d) (hn : n ∈ d.outline)
    (hheld : n.item.under? slot = some held) :
    e.place (some (n.handle : Int)) (.str slot.name) = .ok ⟨some n.handle, slot⟩ := by
  rw [place_slot (h.holds.attributes? hn), if_pos (Item.mem_slots_of_under? hheld)]

/-- A slot that an item of the document does not have is refused. -/
theorem place_under_of_none (h : Drafted e d) (hn : n ∈ d.outline)
    (hnone : n.item.under? slot = none) :
    e.place (some (n.handle : Int)) (.str slot.name) = .error (.refused (.noSlot
      ((n.item.ownAttributes.get? "type").getD .null).words (Json.str slot.name).words)) := by
  have hgenuine : n.item.Genuine :=
    (Document.forall_outlineItems [] 0 d.items).mpr h.holds.genuine.throughout n hn
  rw [place_slot (h.holds.attributes? hn), if_neg]
  exact Item.not_mem_slots_of_under? (h.holds.objects n hn) hgenuine hnone

/-- There are as many children in the editor as the item holds. -/
theorem length_children_under (h : Drafted e d) (hn : n ∈ d.outline)
    (hheld : n.item.under? slot = some held) :
    (e.children ⟨some n.handle, slot⟩).length = held.length := by
  rw [h.holds.children_eq_listed h.depicts.arranged, Document.listed_of_mem hn,
    Document.length_slotted hheld]

/-- A position in a list of the editor is a number of items in front. -/
theorem editAll_put (h : Drafted e d) {p k : Nat}
    (hposition : position.offset (e.children ⟨some p, slot⟩).length = .ok k) (t : Tree) :
    editAll p slot (put position t) (ofItems 0 d.items) =
      editAll p slot (Tree.insertAt k t) (ofItems 0 d.items) := by
  refine editAll_congr fun m hm hp => ?_
  have hnode : m ∈ Woods.nodes ⟨ofItems 0 d.items, []⟩ := by rwa [Woods.nodes_roots]
  rw [← hp, h.depicts.children (.inside hnode slot), List.length_map] at hposition
  exact put_of_offset hposition t

/-- **A new item that holds nothing is put under an item of the document that stands in an editor,**
in any list that the item has and at any position that is one.  The document that is shown then is
the one from before with one more item in that list. -/
theorem run_add_under (h : Drafted e d) (hn : n ∈ d.outline)
    (hheld : n.item.under? slot = some held) (hstarting : Starting name attributes)
    (hbare : Bare attributes) {k : Nat} (hposition : position.offset held.length = .ok k)
    (hversion : (Json.int d.version).Writable) (hitems : Item.AllWritable d.items) :
    ∃ e', (add (.obj attributes) (some (n.handle : Int)) (.str slot.name) position).run e =
        (.ok e.next, e') ∧
      e'.toDocument =
        .ok (d.settled.mapAt n.handle slot (Item.insertAt k (itemOf attributes))) ∧
      e'.toJson.Writable ∧ e'.item e.next = .ok attributes := by
  rw [← h.length_children_under hn hheld] at hposition
  obtain ⟨e', hrun, hshown, hwritten, hitem⟩ := h.run_add_at (h.place_under hn hheld)
    (hbare.insertable hstarting) hstarting.writable hposition hversion hitems
  have hchanged : allToItem (editAll n.handle slot
        (put position (read e.next (.obj attributes))) (ofItems 0 d.items)) =
      Item.allMapAt n.handle slot (Item.insertAt k (itemOf attributes)) 0
        (Item.allSettled d.items) := by
    rw [h.editAll_put hposition]
    refine allToItem_editAll h.holds.objects' h.holds.genuine (fun ts => ?_) n.handle 0
    rw [allToItem_insertAt, hbare.read_eq, toItem_leaf]
  rw [own_of_tidy hbare.tidy] at hitem
  refine ⟨e', hrun, ?_, hwritten, hitem⟩
  rw [hshown]
  exact congrArg (fun items => Except.ok (Document.mk d.version items)) hchanged

end Drafted

end Editor

end Questionnaire
