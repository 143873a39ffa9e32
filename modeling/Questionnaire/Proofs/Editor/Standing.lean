/-
Items that stand in an editor.

The editor keeps items apart from what they hold: the attributes under a handle, the
handles of the children in lists by place.  `Stands` says that what it keeps from a handle
on is a given item, with the handles that the item has in a document.  An item that stands
in an editor is described by the object that is written for it.  It goes on standing as
long as nothing is changed at the handles it takes up.
-/
import Questionnaire.Editor.Edit
import Questionnaire.Proofs.Document.Reading

namespace Questionnaire

namespace Item

/-! ### The parts of an item -/

/-- The attributes of an item without what it holds. -/
def ownAttributes : Item → Entries Json
  | .block text cond _ => ("type", .str "block") :: (field "text" (.str text) ++ field "cond" cond)
  | .yesNo q _ _ => ("type", .str "yesno") :: questionFields q none
  | item => item.toJson.members

/-- Whether an item can be taken apart: its type is no list and no object. -/
def TypeUsable (item : Item) : Prop :=
  ∃ slots, Editor.Slot.ofType (item.toJson.getD "type") = .ok slots

/-- An item that holds no others: neither a block nor a yes/no question. -/
def IsLeaf : Item → Prop
  | .block .. | .yesNo .. => False
  | _ => True

mutual

/-- A property of an item and of all that it holds. -/
def Throughout (P : Item → Prop) : Item → Prop
  | .block text cond items => P (.block text cond items) ∧ AllThroughout P items
  | .yesNo q yes no => P (.yesNo q yes no) ∧ AllThroughout P yes ∧ AllThroughout P no
  | item => P item

/-- The same for a list of items. -/
def AllThroughout (P : Item → Prop) : List Item → Prop
  | [] => True
  | item :: items => Throughout P item ∧ AllThroughout P items

end

theorem Throughout.here {P : Item → Prop} {item : Item} (h : item.Throughout P) : P item := by
  cases item with
  | block | yesNo => exact h.1
  | info | tip | spacer | line | box | check | radio | radioGroup | checkGroup | unknown => exact h

end Item

namespace Document

variable {P : Item → Prop}

mutual

theorem forall_outlineItem (above : List Nat) (handle : Nat) (item : Item) :
    (∀ n ∈ outlineItem above handle item, P n.item) ↔ item.Throughout P := by
  cases item with
  | block text cond items =>
      have hitems := forall_outlineItems (handle :: above) (handle + 1) items
      rw [outlineItem, List.forall_mem_cons, hitems, Item.Throughout]
  | yesNo q yes no =>
      have hyes := forall_outlineItems (handle :: above) (handle + 1) yes
      have hno := forall_outlineItems (handle :: above) (handle + 1 + Item.sizes yes) no
      rw [outlineItem, List.forall_mem_append, List.forall_mem_cons, hyes, hno, Item.Throughout,
        and_assoc]
  | info | tip | spacer | line | box | check | radio | radioGroup | checkGroup | unknown =>
      simp [outlineItem, Item.Throughout]

theorem forall_outlineItems (above : List Nat) (handle : Nat) (items : List Item) :
    (∀ n ∈ outlineItems above handle items, P n.item) ↔ Item.AllThroughout P items := by
  cases items with
  | nil => simp [outlineItems, Item.AllThroughout]
  | cons item items =>
      have hitem := forall_outlineItem above handle item
      have hitems := forall_outlineItems above (handle + item.size) items
      rw [outlineItems, List.forall_mem_append, hitem, hitems, Item.AllThroughout]

end

end Document

namespace Editor

open Document (handlesFrom)

/-! ### Looking at an editor -/

/-- The attributes under a handle. -/
def attributes? (e : Editor) (handle : Nat) : Option (Entries Json) :=
  (e.find? handle).map Live.attributes

/-- What is found in a list of lists, place by place. -/
theorem lookup_cons_place (place other : Place) (handles : List Nat)
    (lists : List (Place × List Nat)) :
    ((place, handles) :: lists).lookup other =
      if other = place then some handles else lists.lookup other := by
  rw [List.lookup_cons]
  by_cases h : other = place
  · simp [h]
  · rw [beq_eq_false_iff_ne.mpr h, if_neg h]

theorem list?_putList (e : Editor) (place other : Place) (handles : List Nat) :
    (e.putList place handles).list? other =
      if other = place then some handles else e.list? other := by
  show (setList e.lists place handles).lookup other =
    if other = place then some handles else e.lists.lookup other
  induction e.lists with
  | nil => rw [setList, lookup_cons_place]
  | cons l lists ih =>
      obtain ⟨p, hs⟩ := l
      by_cases hp : p = place
      · rw [setList, if_pos hp, hp, lookup_cons_place, lookup_cons_place]
        by_cases h : other = place <;> simp [h]
      · rw [setList, if_neg hp, lookup_cons_place, lookup_cons_place, ih]
        by_cases h : other = p
        · simp [h, hp]
        · simp [h]

theorem children_putList (e : Editor) (place other : Place) (handles : List Nat) :
    (e.putList place handles).children other =
      if other = place then handles else e.children other := by
  rw [children, list?_putList]
  by_cases h : other = place
  · rw [if_pos h, if_pos h, Option.getD_some]
  · rw [if_neg h, if_neg h, children]

/-- The lists of children under a handle, by the attributes that stand there. -/
theorem places_of_attributes? {e : Editor} {handle : Nat} {attributes : Entries Json}
    (h : e.attributes? handle = some attributes) :
    e.places handle = (Slot.ofAttributes attributes).map (⟨some handle, ·⟩) := by
  obtain ⟨live, hlive, rfl⟩ := Option.map_eq_some_iff.mp h
  rw [places, slots, hlive]

/-! ### Standing -/

mutual

/-- An item stands in an editor under a handle, with all that it holds. -/
def Stands (e : Editor) (handle : Nat) : Item → Prop
  | .block text cond items =>
    e.attributes? handle = some (Item.block text cond items).ownAttributes ∧
      e.children ⟨some handle, .items⟩ = handlesFrom (handle + 1) items ∧
      AllStand e (handle + 1) items
  | .yesNo q yes no =>
    e.attributes? handle = some (Item.yesNo q yes no).ownAttributes ∧
      (e.children ⟨some handle, .yes⟩ = handlesFrom (handle + 1) yes ∧
        AllStand e (handle + 1) yes) ∧
      e.children ⟨some handle, .no⟩ = handlesFrom (handle + 1 + Item.sizes yes) no ∧
      AllStand e (handle + 1 + Item.sizes yes) no
  | item => e.attributes? handle = some item.ownAttributes

/-- Items stand in an editor side by side from a handle on. -/
def AllStand (e : Editor) (handle : Nat) : List Item → Prop
  | [] => True
  | item :: items => Stands e handle item ∧ AllStand e (handle + item.size) items

end

/-- Two editors keep the same at the handles from one up to another. -/
structure AgreeFrom (e e' : Editor) (first last : Nat) : Prop where
  attributes : ∀ h, first ≤ h → h < last → e'.attributes? h = e.attributes? h
  children : ∀ h slot, first ≤ h → h < last →
    e'.children ⟨some h, slot⟩ = e.children ⟨some h, slot⟩

variable {e e' : Editor}

theorem AgreeFrom.narrow {first last first' last' : Nat} (h : AgreeFrom e e' first last)
    (hfirst : first ≤ first') (hlast : last' ≤ last) : AgreeFrom e e' first' last' := by
  constructor
  · intro k hk hk'
    exact h.attributes k (by omega) (by omega)
  · intro k slot hk hk'
    exact h.children k slot (by omega) (by omega)

mutual

/-- An item stands where nothing was changed. -/
theorem Stands.of_agree {handle : Nat} {item : Item} (h : Stands e handle item)
    (hsame : AgreeFrom e e' handle (handle + item.size)) : Stands e' handle item := by
  have hhere : handle < handle + item.size := by
    cases item <;> simp only [Item.size] <;> omega
  have hattributes := hsame.attributes handle (Nat.le_refl _) hhere
  have hchildren := fun slot => hsame.children handle slot (Nat.le_refl _) hhere
  cases item with
  | block text cond items =>
      obtain ⟨hown, hlist, hitems⟩ := h
      have hsize : (Item.block text cond items).size = Item.sizes items + 1 := rfl
      refine ⟨hattributes.trans hown, (hchildren _).trans hlist, ?_⟩
      exact hitems.of_agree (hsame.narrow (by omega) (by omega))
  | yesNo q yes no =>
      obtain ⟨hown, ⟨hlist, hyes⟩, hlist', hno⟩ := h
      have hsize : (Item.yesNo q yes no).size = Item.sizes yes + Item.sizes no + 1 := rfl
      refine ⟨hattributes.trans hown, ⟨(hchildren _).trans hlist, ?_⟩,
        (hchildren _).trans hlist', ?_⟩
      · exact hyes.of_agree (hsame.narrow (by omega) (by omega))
      · exact hno.of_agree (hsame.narrow (by omega) (by omega))
  | info | tip | spacer | line | box | check | radio | radioGroup | checkGroup | unknown =>
      exact hattributes.trans h

theorem AllStand.of_agree {handle : Nat} {items : List Item} (h : AllStand e handle items)
    (hsame : AgreeFrom e e' handle (handle + Item.sizes items)) : AllStand e' handle items := by
  cases items with
  | nil => trivial
  | cons item items =>
      have hsizes : Item.sizes (item :: items) = item.size + Item.sizes items := rfl
      exact ⟨h.1.of_agree (hsame.narrow (by omega) (by omega)),
        h.2.of_agree (hsame.narrow (by omega) (by omega))⟩

end

/-! ### Slots -/

/-- What was read as an item of no known type has no slots. -/
theorem slots_of_read_unknown {ms : Entries Json} {type : String} {source : Json}
    (h : Item.read (.obj ms) = some (.unknown type source)) {slots : List Slot}
    (hslots : Slot.ofType ((ms.get? "type").getD .null) = .ok slots) : slots = [] := by
  unfold Item.read at h
  unfold Slot.ofType at hslots
  split at hslots
  case h_1 hblock =>
    have htype : ms.lookup "type" = some (.str "block") := by
      cases hfound : ms.get? "type" with
      | none => rw [hfound] at hblock; cases hblock
      | some v => rw [hfound] at hblock; exact hfound.trans (congrArg some hblock)
    rw [htype] at h
    obtain ⟨items, -, hitem⟩ := Option.bind_eq_some_iff.mp h
    cases hitem
  case h_2 hyesNo =>
    have htype : ms.lookup "type" = some (.str "yesno") := by
      cases hfound : ms.get? "type" with
      | none => rw [hfound] at hyesNo; cases hyesNo
      | some v => rw [hfound] at hyesNo; exact hfound.trans (congrArg some hyesNo)
    rw [htype] at h
    obtain ⟨yes, -, h⟩ := Option.bind_eq_some_iff.mp h
    obtain ⟨no, -, hitem⟩ := Option.bind_eq_some_iff.mp h
    cases hitem
  case h_3 => cases hslots
  case h_4 => cases hslots
  case h_5 => exact (Except.ok.inj hslots).symm

/-- An item that holds no others is written as its attributes. -/
theorem toJson_leaf {item : Item} (hleaf : item.IsLeaf) (hobject : item.toJson.isObject = true) :
    item.toJson = .obj item.ownAttributes := by
  cases item with
  | block | yesNo => exact hleaf.elim
  | unknown type source =>
      cases source with
      | obj ms => rfl
      | null | bool | int | float | str | arr => cases hobject
  | info | tip | spacer | line | box | check | radio | radioGroup | checkGroup => rfl

/-- An item that holds no others has no slots. -/
theorem slots_leaf {item : Item} (hleaf : item.IsLeaf) (hobject : item.toJson.isObject = true)
    (hgenuine : item.Genuine) {slots : List Slot}
    (hslots : Slot.ofType (item.toJson.getD "type") = .ok slots) : slots = [] := by
  cases item with
  | block | yesNo => exact hleaf.elim
  | unknown type source =>
      cases source with
      | obj ms => exact slots_of_read_unknown hgenuine hslots
      | null | bool | int | float | str | arr => cases hobject
  | info | tip | spacer | line | box | check | radio | radioGroup | checkGroup =>
      exact (Except.ok.inj hslots).symm

theorem ofAttributes_leaf {item : Item} (hleaf : item.IsLeaf)
    (hobject : item.toJson.isObject = true) (hgenuine : item.Genuine) :
    Slot.ofAttributes item.ownAttributes = [] := by
  have hslots : ∀ slots, Slot.ofType (item.toJson.getD "type") = .ok slots → slots = [] :=
    fun _ => slots_leaf hleaf hobject hgenuine
  rw [toJson_leaf hleaf hobject] at hslots
  have htype : Json.getD (.obj item.ownAttributes) "type" =
      (item.ownAttributes.get? "type").getD .null := rfl
  rw [htype] at hslots
  unfold Slot.ofAttributes
  cases hkind : Slot.ofType ((item.ownAttributes.get? "type").getD .null) with
  | ok slots => exact hslots slots hkind
  | error m => rfl

theorem get?_own_block (text : String) (cond : Json) (items : List Item) :
    (Item.block text cond items).ownAttributes.get? "items" = none := by
  simp [Item.ownAttributes, Entries.get?_cons, Entries.get?_append, Item.get?_field]

theorem get?_own_yesNo (q : Question) (yes no : List Item) {name : String}
    (hname : name = "yes" ∨ name = "no") :
    (Item.yesNo q yes no).ownAttributes.get? name = none := by
  rcases hname with rfl | rfl <;>
    simp [Item.ownAttributes, Item.questionFields, Item.questionHead, Entries.get?_cons,
      Entries.get?_append, Item.get?_field]

/-! ### What is described -/

/-- An item with no slots is described by its attributes. -/
theorem describe_of_no_slots {handle : Nat} {attributes : Entries Json}
    (h : e.attributes? handle = some attributes) (hslots : Slot.ofAttributes attributes = [])
    (depth : Nat) : e.describe depth handle = .obj attributes := by
  have hfound : (e.find? handle).map Live.attributes = some attributes := h
  cases depth with
  | zero => rw [describe, hfound, Option.getD_some]
  | succ depth =>
      rw [describe, hfound, places_of_attributes? h, hslots]
      rfl

theorem describe_leaf {handle : Nat} {item : Item} (hleaf : item.IsLeaf)
    (hobject : item.toJson.isObject = true) (hgenuine : item.Genuine)
    (h : e.attributes? handle = some item.ownAttributes) (depth : Nat) :
    e.describe depth handle = item.toJson := by
  rw [toJson_leaf hleaf hobject]
  exact describe_of_no_slots h (ofAttributes_leaf hleaf hobject hgenuine) depth

/-- The items of a slot as they are described: left out where there are none, save in a
block. -/
def describeSlot (e : Editor) (depth handle : Nat) (slot : Slot) : Option (String × Json) :=
  let inside := e.children ⟨some handle, slot⟩
  if inside.isEmpty && slot ≠ .items then none
  else some (slot.name, .arr (inside.map (e.describe depth)))

theorem describeSlot_eq {depth handle first : Nat} {slot : Slot} {items : List Item}
    (hlist : e.children ⟨some handle, slot⟩ = handlesFrom first items)
    (hinside : (handlesFrom first items).map (e.describe depth) = Item.allToJson items) :
    e.describeSlot depth handle slot =
      if items.isEmpty && slot ≠ .items then none
      else some (slot.name, .arr (Item.allToJson items)) := by
  have hempty : (handlesFrom first items).isEmpty = items.isEmpty := by
    cases items <;> rfl
  simp only [describeSlot, hlist, hinside, hempty]

theorem describe_of_slots {handle : Nat} {attributes : Entries Json}
    (h : e.attributes? handle = some attributes) (depth : Nat) :
    e.describe (depth + 1) handle =
      .obj (Entries.setAll attributes
        ((Slot.ofAttributes attributes).filterMap (e.describeSlot depth handle))) := by
  have hfound : (e.find? handle).map Live.attributes = some attributes := h
  rw [describe, hfound, places_of_attributes? h, List.filterMap_map]
  rfl

mutual

/-- **An item that stands in an editor is described by the object that is written for it.** -/
theorem describe_of_stands {handle : Nat} {item : Item}
    (hobject : item.Throughout (·.toJson.isObject = true)) (hgenuine : item.Genuine)
    (h : Stands e handle item) {depth : Nat} (hdepth : item.size ≤ depth) :
    e.describe depth handle = item.toJson := by
  cases item with
  | block text cond items =>
      obtain ⟨hown, hlist, hitems⟩ := h
      obtain ⟨depth, rfl⟩ : ∃ k, depth = k + 1 := Nat.exists_eq_succ_of_ne_zero (by
        have hsize : (Item.block text cond items).size = Item.sizes items + 1 := rfl
        omega)
      have hinside := describe_of_allStand hobject.2 hgenuine hitems (Nat.le_of_succ_le_succ hdepth)
      have hslots : Slot.ofAttributes (Item.block text cond items).ownAttributes = [.items] := rfl
      rw [describe_of_slots hown, hslots, Entries.setAll_of_get?_eq_none]
      · simp [describeSlot_eq hlist hinside, Item.toJson, Item.typed, Item.ownAttributes, Slot.name]
      · simp [describeSlot_eq hlist hinside, Entries.names, Slot.name, get?_own_block]
      · simp [describeSlot_eq hlist hinside, Entries.names]
  | yesNo q yes no =>
      obtain ⟨hown, ⟨hlist, hyes⟩, hlist', hno⟩ := h
      obtain ⟨depth, rfl⟩ : ∃ k, depth = k + 1 := Nat.exists_eq_succ_of_ne_zero (by
        have hsize : (Item.yesNo q yes no).size = Item.sizes yes + Item.sizes no + 1 := rfl
        omega)
      have hsize : Item.sizes yes + Item.sizes no ≤ depth := Nat.le_of_succ_le_succ hdepth
      have hinside := describe_of_allStand hobject.2.1 hgenuine.1 hyes (show _ ≤ depth by omega)
      have hinside' := describe_of_allStand hobject.2.2 hgenuine.2 hno (show _ ≤ depth by omega)
      have hslots : Slot.ofAttributes (Item.yesNo q yes no).ownAttributes = [.yes, .no] := rfl
      have hfilled : [Slot.yes, .no].filterMap (e.describeSlot depth handle) =
          (if yes.isEmpty then [] else [("yes", .arr (Item.allToJson yes))]) ++
            (if no.isEmpty then [] else [("no", .arr (Item.allToJson no))]) := by
        simp only [List.filterMap_cons, List.filterMap_nil, describeSlot_eq hlist hinside,
          describeSlot_eq hlist' hinside']
        cases yes.isEmpty <;> cases no.isEmpty <;> rfl
      rw [describe_of_slots hown, hslots, hfilled, Entries.setAll_of_get?_eq_none]
      · simp only [Item.toJson, Item.typed, Item.ownAttributes, List.cons_append, List.append_assoc]
      · intro name hname
        refine get?_own_yesNo q yes no ?_
        cases hy : yes.isEmpty <;> cases hn : no.isEmpty <;>
          simp [hy, hn, Entries.names] at hname <;> simp [hname]
      · cases yes.isEmpty <;> cases no.isEmpty <;> simp [Entries.names]
  | info | tip | spacer | line | box | check | radio | radioGroup | checkGroup | unknown =>
      apply describe_leaf
      · trivial
      · exact hobject
      · exact hgenuine
      · exact h

theorem describe_of_allStand {handle : Nat} {items : List Item}
    (hobject : Item.AllThroughout (·.toJson.isObject = true) items)
    (hgenuine : Item.AllGenuine items) (h : AllStand e handle items) {depth : Nat}
    (hdepth : Item.sizes items ≤ depth) :
    (handlesFrom handle items).map (e.describe depth) = Item.allToJson items := by
  cases items with
  | nil => rfl
  | cons item items =>
      have hsizes : Item.sizes (item :: items) = item.size + Item.sizes items := rfl
      have hitem := describe_of_stands hobject.1 hgenuine.1 h.1 (show _ ≤ depth by omega)
      have hitems := describe_of_allStand hobject.2 hgenuine.2 h.2 (show _ ≤ depth by omega)
      rw [handlesFrom, List.map_cons, hitem, hitems, Item.allToJson]

end

end Editor

end Questionnaire
