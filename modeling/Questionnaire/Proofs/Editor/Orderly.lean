/-
Attributes that the check finds nothing wrong with.

The check reads a whole document again from what the editor keeps, while the editor looks at
the attributes of its items one by one.  `itemOf` is the item that attributes stand for,
apart from what it holds; the check asks no more of an item than that, `Item.account`.

Attributes are orderly if the check finds nothing wrong with that item and the ids that the
editor reads in them are the ones that the check claims.  The attributes of every item of a
document without findings are orderly when it is opened.
-/
import Questionnaire.Proofs.Document.Validation
import Questionnaire.Proofs.Editor.Identifiers
import Questionnaire.Proofs.Editor.Value

namespace Questionnaire

namespace Item

/-! ### What the check asks of an item -/

/-- What the check reads of an item, apart from what the item holds. -/
def account (item : Item) : Json × List GroupChoice × Bool × Bool × Bool :=
  (item.id, Validation.keyChoices item, item.lacksId, item.lacksChoices, item.lacksType)

/-- The check finds nothing wrong with an item by itself. -/
structure Fit (item : Item) : Prop where
  checkable : item.Checkable
  wellFormed : ∀ id ∈ item.written, Validation.isId id = true
  complete : item.lacksId = false ∧ item.lacksChoices = false ∧ item.lacksType = false

variable {item other : Item}

theorem written_of_account (h : item.account = other.account) : item.written = other.written := by
  obtain ⟨hid, hrest⟩ := Prod.mk.inj h
  obtain ⟨hchoices, -⟩ := Prod.mk.inj hrest
  rw [written, written, idText, idText, hid, hchoices]

theorem Fit.of_account (hfit : item.Fit) (h : item.account = other.account) : other.Fit := by
  have hwritten := written_of_account h
  obtain ⟨hid, hrest⟩ := Prod.mk.inj h
  obtain ⟨-, hrest⟩ := Prod.mk.inj hrest
  obtain ⟨hlacksId, hrest⟩ := Prod.mk.inj hrest
  obtain ⟨hlacksChoices, hlacksType⟩ := Prod.mk.inj hrest
  refine ⟨?_, hwritten ▸ hfit.wellFormed, ?_⟩
  · rw [Checkable, ← hid]
    exact hfit.checkable
  · rw [← hlacksId, ← hlacksChoices, ← hlacksType]
    exact hfit.complete

theorem account_settled (item : Item) : item.settled.account = item.account := by
  cases item <;> rfl

end Item

namespace Editor

open Questionnaire.Editor.Tree

/-! ### The item that attributes stand for -/

/-- The item that attributes stand for, with nothing in it. -/
def itemOf (attributes : Entries Json) : Item := (leaf 0 attributes).toItem

/-- What a node holds does not matter to what is asked of its item. -/
theorem account_toItem (t : Tree) : t.toItem.account = (itemOf t.attributes).account := by
  obtain ⟨handle, attributes, inside⟩ := t
  rw [itemOf, leaf, toItem, Tree.attributes, toItem]
  split <;> rfl

theorem itemOf_of_no_slots {attributes : Entries Json} (h : Slot.ofAttributes attributes = []) :
    itemOf attributes = Item.readLeaf (.obj attributes) := by
  rcases Slot.ofAttributes_cases attributes with ⟨-, hslots⟩ | ⟨-, hslots⟩ | ⟨hblock, hyesNo, -⟩
  · rw [hslots] at h; cases h
  · rw [hslots] at h; cases h
  · rw [itemOf, leaf, toItem]
    split
    · next heq => exact absurd heq hblock
    · next heq => exact absurd heq hyesNo
    · rfl

theorem itemOf_own_yesNo (q : Question) (yes no : List Item) :
    itemOf (Item.yesNo q yes no).ownAttributes = .yesNo q.settled [] [] := by
  have hquestion := Item.readQuestion_questionFields "yesno" q none [] (by simp)
  rw [List.append_nil] at hquestion
  rw [← hquestion]
  rfl

/-- An item that holds no others is what its attributes stand for, settled. -/
theorem itemOf_own_leaf {item : Item} (hleaf : item.IsLeaf)
    (hobject : item.toJson.isObject = true) (hgenuine : item.Genuine) :
    itemOf item.ownAttributes = item.settled := by
  have hslots := ofAttributes_leaf hleaf hobject hgenuine
  rw [itemOf_of_no_slots hslots, ← toJson_leaf hleaf hobject]
  cases item with
  | block | yesNo => exact hleaf.elim
  | unknown type source =>
      cases source with
      | obj ms =>
          rcases Slot.ofAttributes_cases ms with ⟨-, hms⟩ | ⟨-, hms⟩ | ⟨hblock, hyesNo, -⟩
          · exact nomatch hms.symm.trans hslots
          · exact nomatch hms.symm.trans hslots
          · have hread : Item.read (.obj ms) = some (.unknown type (.obj ms)) := hgenuine
            rw [Item.read_of_leaf hblock hyesNo] at hread
            exact Option.some.inj hread
      | null | bool | int | float | str | arr => cases hobject
  | info | tip | spacer | line | box | check | radio | radioGroup | checkGroup =>
      exact Item.readLeaf_toJson (fun _ _ _ h => nomatch h) (fun _ _ _ h => nomatch h)
        fun _ _ h => nomatch h

/-- The attributes of an item stand for it. -/
theorem account_itemOf_own {item : Item} (hobject : item.toJson.isObject = true)
    (hgenuine : item.Genuine) : (itemOf item.ownAttributes).account = item.account := by
  cases item with
  | block text cond items => rfl
  | yesNo q yes no => rw [itemOf_own_yesNo]; rfl
  | info | tip | spacer | line | box | check | radio | radioGroup | checkGroup | unknown =>
      refine (congrArg Item.account (itemOf_own_leaf ?_ hobject hgenuine)).trans
        (Item.account_settled _)
      trivial

/-! ### The ids that the editor reads -/

section Ids

variable {attributes : Entries Json}

/-- The id among attributes, which is left out where it is empty. -/
def HasId (attributes : Entries Json) (id : String) : Prop :=
  attributes.get? "id" = if id = "" then none else some (.str id)

theorem idsOf_of_hasId {id : String} (hid : HasId attributes id)
    (htype : Json.sameAs (attributes.get? "type") (.str "checkgroup") = false) :
    idsOf attributes = .ok ((if id = "" then [] else [id] : List String).map Json.str) := by
  rw [HasId] at hid
  rw [idsOf, hid, htype]
  by_cases h : id = "" <;> simp [h, Json.truthy, bind, Except.bind, pure, Except.pure]

/-- The option ids among the choices that are written for a group. -/
theorem choiceIds_toJson (choices : List GroupChoice) :
    choiceIds (.arr (choices.map GroupChoice.toJson)) =
      .ok ((choices.map GroupChoice.id).map Json.str) := by
  rw [choiceIds, Except.ok.injEq]
  induction choices with
  | nil => rfl
  | cons c choices ih =>
      rw [List.map_cons, List.flatMap_cons, ih]
      rfl

theorem idsOf_checkGroup {id : String} {choices : List GroupChoice} (hid : HasId attributes id)
    (htype : attributes.get? "type" = some (.str "checkgroup"))
    (hchoices : attributes.get? "choices" = some (.arr (choices.map GroupChoice.toJson))) :
    idsOf attributes = .ok (((if id = "" then [] else [id]) ++
      choices.map GroupChoice.id).map Json.str) := by
  have hsame : Json.sameAs (some (.str "checkgroup")) (.str "checkgroup") = true := rfl
  rw [HasId] at hid
  rw [idsOf, hid, htype, hsame, hchoices, Option.getD_some, choiceIds_toJson]
  by_cases h : id = "" <;> simp [h, Json.truthy, bind, Except.bind, pure, Except.pure]

/-- An item of a known type has a text as its id, which is among its attributes. -/
theorem hasId_own {item : Item} (hknown : ∀ type source, item ≠ .unknown type source) :
    HasId item.ownAttributes item.idText := by
  have hspeaks (id : String) : (Json.str id).speaks = decide (id ≠ "") := rfl
  cases item with
  | unknown type source => exact absurd rfl (hknown type source)
  | block | info | spacer =>
      simp [HasId, Item.idText, Item.id, Item.question?, Json.truthy, Item.ownAttributes,
        Item.toJson, Item.typed, Json.members, Entries.get?_cons, Entries.get?_append,
        Item.get?_field]
  | tip t =>
      by_cases hid : t.id = "" <;>
        simp [HasId, Item.idText, Item.id, Json.truthy, Json.str?, hid, Item.ownAttributes,
          Item.toJson, Item.typed, Json.members, Item.tipFields, Entries.get?_cons,
          Entries.get?_append, Item.get?_field, hspeaks]
  | line q | box q | check q | yesNo q | radio q | radioGroup q | checkGroup q =>
      by_cases hid : q.id = "" <;>
        simp [HasId, Item.idText, Item.id, Item.question?, Json.truthy, Json.str?, hid,
          Item.ownAttributes, Item.toJson, Item.typed, Json.members, Item.questionFields,
          Item.groupFields, Item.questionHead, Entries.get?_cons, Entries.get?_append,
          Item.get?_field, hspeaks]

/-- What was read as an item of no known type is no checkbox group. -/
theorem sameAs_type_unknown {type : String} {ms : Entries Json}
    (hgenuine : (Item.unknown type (.obj ms)).Genuine) :
    Json.sameAs (ms.get? "type") (.str "checkgroup") = false := by
  by_contra hsame
  rw [Bool.not_eq_false] at hsame
  have hfound : ms.get? "type" = some (.str "checkgroup") := sameAs_str_iff.mp hsame
  have htype : Json.getD (.obj ms) "type" = .str "checkgroup" := by
    rw [Json.getD, Json.get?, Json.members, hfound, Option.getD_some]
  have hread : Item.read (.obj ms) = some (.unknown type (.obj ms)) := hgenuine
  rw [Item.read_of_leaf (by simp [hfound]) (by simp [hfound]), Item.readLeaf, htype] at hread
  cases hread

theorem idsOf_unknown {type : String} {ms : Entries Json}
    (hgenuine : (Item.unknown type (.obj ms)).Genuine)
    (hcheck : (Item.unknown type (.obj ms)).Checkable) :
    idsOf ms = .ok ((Item.unknown type (.obj ms)).written.map Json.str) := by
  have hid : (Item.unknown type (.obj ms)).id = (ms.get? "id").getD (.str "") := rfl
  rw [Item.Checkable, hid] at hcheck
  rw [idsOf, sameAs_type_unknown hgenuine, Item.written, Item.idText, hid]
  cases hfound : ms.get? "id" with
  | none => rfl
  | some v =>
      rw [hfound] at hcheck
      cases htruthy : v.truthy with
      | false => simp [htruthy, Validation.keyChoices, bind, Except.bind, pure, Except.pure]
      | true =>
          obtain ⟨id, rfl⟩ := hcheck htruthy
          have hne : id ≠ "" := by simpa [Json.truthy] using htruthy
          simp [htruthy, hne, Json.str?, Validation.keyChoices, bind, Except.bind, pure,
            Except.pure]

/-- The ids that the editor reads among the attributes of an item are those that the check
claims. -/
theorem idsOf_own {item : Item} (hobject : item.toJson.isObject = true) (hgenuine : item.Genuine)
    (hcheck : item.Checkable) : idsOf item.ownAttributes = .ok (item.written.map Json.str) := by
  cases item with
  | checkGroup q group =>
      have hid : HasId (Item.checkGroup q group).ownAttributes _ :=
        hasId_own (by rintro _ _ ⟨⟩)
      have hchoices : (Item.checkGroup q group).ownAttributes.get? "choices" =
          some (.arr (group.choices.map GroupChoice.toJson)) := by
        simp [Item.ownAttributes, Item.toJson, Item.typed, Json.members, Item.groupFields,
          Item.questionHead, Entries.get?_cons, Entries.get?_append, Item.get?_field]
      exact idsOf_checkGroup hid rfl hchoices
  | unknown type source =>
      cases source with
      | obj ms => exact idsOf_unknown hgenuine hcheck
      | null | bool | int | float | str | arr => cases hobject
  | block | info | tip | spacer | line | box | check | yesNo | radio | radioGroup =>
      rw [idsOf_of_hasId (hasId_own (by rintro _ _ ⟨⟩)) rfl, Item.written]
      simp [Validation.keyChoices]

end Ids

/-! ### Orderly attributes -/

/-- The check finds nothing wrong with attributes, and the editor reads the ids in them that
the check claims. -/
structure Orderly (attributes : Entries Json) : Prop where
  fit : (itemOf attributes).Fit
  ids : idsOf attributes = .ok ((itemOf attributes).written.map Json.str)

theorem orderly_own {item : Item} (hobject : item.toJson.isObject = true)
    (hgenuine : item.Genuine) (hfit : item.Fit) : Orderly item.ownAttributes := by
  have haccount := account_itemOf_own hobject hgenuine
  refine ⟨hfit.of_account haccount.symm, ?_⟩
  rw [idsOf_own hobject hgenuine hfit.checkable, Item.written_of_account haccount]

/-- All attributes are orderly, and no two of them, nor one twice, have an id in common. -/
structure AllOrderly (all : List (Entries Json)) : Prop where
  each : ∀ attributes ∈ all, Orderly attributes
  distinct : (all.flatMap fun attributes => (itemOf attributes).written).Nodup

theorem AllOrderly.sublist {all some : List (Entries Json)} (h : AllOrderly all)
    (hsub : some.Sublist all) : AllOrderly some where
  each attributes hmem := h.each attributes (hsub.subset hmem)
  distinct := (hsub.flatMap _).nodup h.distinct

theorem AllOrderly.perm {all others : List (Entries Json)} (h : AllOrderly all)
    (hperm : all.Perm others) : AllOrderly others where
  each attributes hmem := h.each attributes (hperm.mem_iff.mpr hmem)
  distinct := (hperm.flatMap_right _).nodup_iff.mp h.distinct

/-- Attributes whose ids are new can be added. -/
theorem AllOrderly.concat {all : List (Entries Json)} {attributes : Entries Json}
    (h : AllOrderly all) (hone : Orderly attributes)
    (hnodup : (itemOf attributes).written.Nodup)
    (hnew : ∀ other ∈ all, ∀ id ∈ (itemOf other).written, id ∉ (itemOf attributes).written) :
    AllOrderly (all ++ [attributes]) where
  each := List.forall_mem_append.mpr ⟨h.each, List.forall_mem_singleton.mpr hone⟩
  distinct := by
    rw [List.flatMap_append, List.flatMap_singleton]
    refine h.distinct.append hnodup fun id hid => ?_
    obtain ⟨other, hother, hmem⟩ := List.mem_flatMap.mp hid
    exact hnew other hother id hmem

end Editor

end Questionnaire
