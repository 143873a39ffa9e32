/-
Opening a document for editing.

Items are put into an editor one after the other, each with all that it holds.  `Grown`
says what comes of it: the items stand side by side from the next free handle on, their
handles have gone to the end of the list, and nothing that was there before is touched.
Since the editor starts out empty, the handles are those of the document.

An item whose type is a list or an object cannot be taken apart.  It is the only thing
that keeps a document from being opened, and it stops the whole of it.  A document that is
opened and not edited is described by the object that is written for it, so that it is read
back as the document, settled.
-/
import Questionnaire.Proofs.Attempt
import Questionnaire.Proofs.Document.RoundTrip
import Questionnaire.Proofs.Editor.Standing

namespace Questionnaire

namespace Editor

open Document (handlesFrom)

variable {e e' : Editor}

/-! ### One item -/

/-- The editor after an item was recorded, with none of what it holds. -/
def planted (e : Editor) (place : Place) (own : Entries Json) : Editor :=
  let recorded : Editor :=
    { e with next := e.next + 1, live := e.live ++ [⟨e.next, own, place⟩] }
  (recorded.putList place (e.children place)).putList place (e.children place ++ [e.next])

theorem insertAt_length (handle : Nat) (handles : List Nat) :
    insertAt handles.length handle handles = handles ++ [handle] := by
  rw [insertAt, List.take_length, List.drop_length]

/-- The rest of an insertion after the item itself was recorded. -/
def insertSlots (handle : Nat) (slots : List Slot) (ms : Entries Json) : Attempt Editor Nat := do
  if slots.contains .items then insertSlot handle .items ms
  if slots.contains .yes then insertSlot handle .yes ms
  if slots.contains .no then insertSlot handle .no ms
  return handle

theorem run_insert (e : Editor) (place : Place) (ms : Entries Json) {slots : List Slot}
    (hslots : Slot.ofType ((ms.get? "type").getD .null) = .ok slots) :
    (insert place .last (.obj ms)).run e =
      (insertSlots e.next slots ms).run
        (e.planted place (ms.filter fun m => !slots.any (·.name = m.1))) := by
  have hkind : Slot.ofType ((ms.lookup "type").getD .null) = .ok slots := hslots
  rw [insert, hkind]
  simp [enlist, insertSlots, Position.offset, insertAt_length, Except.mapError]
  rfl

/-- An item whose type cannot be looked up is not added. -/
theorem run_insert_misfit (e : Editor) (place : Place) (ms : Entries Json) {m : Misfit}
    (hslots : Slot.ofType ((ms.get? "type").getD .null) = .error m) :
    ((insert place .last (.obj ms)).run e).1 = .error (.misfit m) := by
  have hkind : Slot.ofType ((ms.lookup "type").getD .null) = .error m := hslots
  rw [insert, hkind]
  simp [Except.mapError]

/-- A slot is filled with the items that were written under its name. -/
theorem run_insertSlot {ms : Entries Json} {slot : Slot} {items : List Item}
    (h : ms.get? slot.name = some (.arr (Item.allToJson items)) ∨
      items = [] ∧ ms.get? slot.name = none) (handle : Nat) (e : Editor) :
    (insertSlot handle slot ms).run e =
      (insertAll ⟨some handle, slot⟩ (Item.allToJson items)).run
        (e.putList ⟨some handle, slot⟩ []) := by
  induction ms with
  | nil =>
      rcases h with h | ⟨rfl, -⟩
      · cases h
      · simp [insertSlot, Item.allToJson, insertAll]
  | cons m ms ih =>
      obtain ⟨n, v⟩ := m
      rw [Entries.get?_cons] at h
      by_cases hn : n = slot.name
      · rw [if_pos hn.symm] at h
        rcases h with h | ⟨-, h⟩
        · cases h
          simp [insertSlot, hn, insertChildren]
        · cases h
      · rw [if_neg (Ne.symm hn)] at h
        rw [insertSlot, if_neg hn]
        exact ih h

/-! ### What adding leaves alone -/

/-- Every handle in use was given out. -/
def Fresh (e : Editor) : Prop := ∀ item ∈ e.live, item.handle < e.next

/-- The list belongs to the top level or to an item whose handle is below a bound. -/
def Place.Before (p : Place) (bound : Nat) : Prop := ∀ h, p.parent = some h → h < bound

theorem Place.Before.mono {p : Place} {n m : Nat} (h : p.Before n) (hle : n ≤ m) : p.Before m := by
  intro k hk
  exact Nat.lt_of_lt_of_le (h k hk) hle

/-- An editor that came from another one by adding a number of items. -/
structure Extends (e e' : Editor) (n : Nat) : Prop where
  fresh : e'.Fresh
  version : e'.version = e.version
  next : e'.next = e.next + n
  count : e'.live.length = e.live.length + n
  older : ∀ h, h < e.next → e'.attributes? h = e.attributes? h

theorem Extends.trans {e'' : Editor} {n m : Nat} (h : Extends e e' n) (h' : Extends e' e'' m) :
    Extends e e'' (n + m) where
  fresh := h'.fresh
  version := h'.version.trans h.version
  next := by rw [h'.next, h.next, Nat.add_assoc]
  count := by rw [h'.count, h.count, Nat.add_assoc]
  older := by
    intro k hk
    have hk' : k < e'.next := by
      have hnext := h.next
      omega
    rw [h'.older k hk', h.older k hk]

theorem find?_planted (e : Editor) (place : Place) (own : Entries Json) (handle : Nat) :
    (e.planted place own).find? handle =
      (e.find? handle).or (if e.next = handle then some ⟨e.next, own, place⟩ else none) := by
  show (e.live ++ [_]).find? _ = _
  rw [List.find?_append, List.find?_singleton]
  simp [find?]

theorem attributes?_planted (hfresh : e.Fresh) (place : Place) (own : Entries Json) :
    (e.planted place own).attributes? e.next = some own := by
  have hnone : e.find? e.next = none := by
    refine List.find?_eq_none.mpr fun item hitem hhandle => ?_
    have hlt := hfresh item hitem
    simp only [decide_eq_true_eq] at hhandle
    omega
  rw [attributes?, find?_planted, hnone, Option.none_or, if_pos rfl]
  rfl

theorem extends_planted (hfresh : e.Fresh) (place : Place) (own : Entries Json) :
    Extends e (e.planted place own) 1 where
  fresh := by
    intro item hitem
    have hmem : item ∈ e.live ++ [⟨e.next, own, place⟩] := hitem
    rw [List.mem_append, List.mem_singleton] at hmem
    rcases hmem with hmem | rfl
    · exact Nat.lt_succ_of_lt (hfresh item hmem)
    · exact Nat.lt_succ_self _
  version := rfl
  next := rfl
  count := List.length_append
  older := by
    intro h hh
    rw [attributes?, find?_planted, if_neg (by omega), Option.or_none, attributes?]

theorem children_planted (e : Editor) (place other : Place) (own : Entries Json) :
    (e.planted place own).children other =
      if other = place then e.children place ++ [e.next] else e.children other := by
  rw [planted, children_putList, children_putList]
  by_cases h : other = place
  · rw [if_pos h, if_pos h]
  · rw [if_neg h, if_neg h, if_neg h]
    rfl

/-- An editor that came from another one by adding items at the end of a list, which had some
handles in it. -/
structure Grown (e e' : Editor) (place : Place) (before : List Nat) (items : List Item) : Prop
    extends Extends e e' (Item.sizes items) where
  others : ∀ p, p.Before e.next → p ≠ place → e'.children p = e.children p
  here : e'.children place = before ++ handlesFrom e.next items
  stand : AllStand e' e.next items

/-- Below the next handle nothing changes, save in the list that was added to. -/
theorem Grown.agree {place : Place} {before : List Nat} {items : List Item} {first last : Nat}
    (h : Grown e e' place before items) (hlast : last ≤ e.next)
    (hplace : ∀ k, place.parent = some k → k < first ∨ last ≤ k) : AgreeFrom e e' first last := by
  constructor
  · intro k hk hk'
    exact h.older k (by omega)
  · intro k slot hk hk'
    refine h.others _ ?_ ?_
    · rintro j hj
      cases hj
      omega
    · rintro rfl
      have hout := hplace k rfl
      omega

theorem Grown.nil (hfresh : e.Fresh) (place : Place) : Grown e e place (e.children place) [] where
  fresh := hfresh
  version := rfl
  next := rfl
  count := rfl
  older _ _ := rfl
  others _ _ _ := rfl
  here := (List.append_nil _).symm
  stand := trivial

/-- Adding one item and then others adds them all. -/
theorem Grown.cons {e'' : Editor} {place : Place} {item : Item} {items : List Item}
    (hplace : place.Before e.next) (h : Grown e e' place (e.children place) [item])
    (h' : Grown e' e'' place (e'.children place) items) :
    Grown e e'' place (e.children place) (item :: items) := by
  have hnext : e'.next = e.next + item.size := h.next
  have hextends : Extends e e'' (item.size + Item.sizes items) := h.toExtends.trans h'.toExtends
  refine ⟨hextends, ?_, ?_, ?_⟩
  · intro p hp hne
    rw [h'.others p (hp.mono (by omega)) hne, h.others p hp hne]
  · rw [h'.here, h.here, hnext, List.append_assoc]
    rfl
  · have hsame : AgreeFrom e' e'' e.next (e.next + item.size) :=
      h'.agree (by omega) fun k hk => Or.inl (hplace k hk)
    have hrest := h'.stand
    rw [hnext] at hrest
    exact ⟨h.stand.1.of_agree hsame, hrest⟩

/-- A slot that was emptied first holds what was added to it. -/
theorem Grown.of_putList {place : Place} {items : List Item}
    (h : Grown (e.putList place []) e' place ((e.putList place []).children place) items) :
    Grown e e' place [] items := by
  refine ⟨⟨h.fresh, h.version, h.next, h.count, h.older⟩, ?_, ?_, h.stand⟩
  · intro p hp hne
    rw [h.others p hp hne, children_putList, if_neg hne]
  · rw [h.here, children_putList, if_pos rfl]
    rfl

/-! ### What is added for an item -/

variable {place : Place}

theorem not_before_self (handle : Nat) (slot : Slot) : ¬Place.Before ⟨some handle, slot⟩ handle :=
  fun h => Nat.lt_irrefl handle (h handle rfl)

theorem grown_leaf {item : Item} (hleaf : item.IsLeaf) (hfresh : e.Fresh) :
    Grown e (e.planted place item.ownAttributes) place (e.children place) [item] := by
  have hattributes := attributes?_planted hfresh place item.ownAttributes
  have hextends := extends_planted hfresh place item.ownAttributes
  have hsize : Item.sizes [item] = 1 := by
    cases item with
    | block | yesNo => exact hleaf.elim
    | info | tip | spacer | line | box | check | radio | radioGroup | checkGroup | unknown => rfl
  refine ⟨by rw [hsize]; exact hextends, ?_, ?_, ?_, trivial⟩
  · intro p _ hne
    rw [children_planted, if_neg hne]
  · rw [children_planted, if_pos rfl]
    rfl
  · cases item with
    | block | yesNo => exact hleaf.elim
    | info | tip | spacer | line | box | check | radio | radioGroup | checkGroup | unknown =>
        exact hattributes

/-- The lists outside a new item are as they were, save that its handle went to the end of
its own list. -/
theorem children_outside {p : Place} {own : Entries Json} {s : Editor}
    (hsame : s.children p = (e.planted place own).children p) :
    s.children p = if p = place then e.children place ++ [e.next] else e.children p := by
  rw [hsame, children_planted]

theorem grown_block {text : String} {cond : Json} {items : List Item} (hfresh : e.Fresh)
    (hplace : place.Before e.next)
    (h : Grown (e.planted place (Item.block text cond items).ownAttributes) e'
      ⟨some e.next, .items⟩ [] items) :
    Grown e e' place (e.children place) [.block text cond items] := by
  have hplanted := extends_planted hfresh place (Item.block text cond items).ownAttributes
  have houtside : ∀ p : Place, p.Before e.next →
      e'.children p = if p = place then e.children place ++ [e.next] else e.children p := by
    intro p hp
    refine children_outside (h.others p (hp.mono (Nat.le_succ _)) ?_)
    rintro rfl
    exact not_before_self _ _ hp
  have hextends := hplanted.trans h.toExtends
  have hsize : Item.sizes [.block text cond items] = 1 + Item.sizes items := by
    simp only [Item.sizes, Item.size]
    omega
  refine ⟨by rw [hsize]; exact hextends, ?_, ?_, ⟨?_, h.here, h.stand⟩, trivial⟩
  · intro p hp hne
    rw [houtside p hp, if_neg hne]
  · rw [houtside place hplace, if_pos rfl]
    rfl
  · rw [h.older e.next (Nat.lt_succ_self _)]
    exact attributes?_planted hfresh place _

theorem grown_yesNo {e'' : Editor} {q : Question} {yes no : List Item} (hfresh : e.Fresh)
    (hplace : place.Before e.next)
    (h : Grown (e.planted place (Item.yesNo q yes no).ownAttributes) e' ⟨some e.next, .yes⟩ [] yes)
    (h' : Grown e' e'' ⟨some e.next, .no⟩ [] no) :
    Grown e e'' place (e.children place) [.yesNo q yes no] := by
  have hplanted := extends_planted hfresh place (Item.yesNo q yes no).ownAttributes
  have hnext : e'.next = e.next + 1 + Item.sizes yes := h.next
  have houtside : ∀ p : Place, p.Before e.next →
      e''.children p = if p = place then e.children place ++ [e.next] else e.children p := by
    intro p hp
    refine children_outside ((h'.others p (hp.mono (by omega)) ?_).trans
      (h.others p (hp.mono (Nat.le_succ _)) ?_)) <;>
      (rintro rfl; exact not_before_self _ _ hp)
  have hextends := hplanted.trans (h.toExtends.trans h'.toExtends)
  have hsize : Item.sizes [.yesNo q yes no] = 1 + (Item.sizes yes + Item.sizes no) := by
    simp only [Item.sizes, Item.size]
    omega
  refine ⟨by rw [hsize]; exact hextends, ?_, ?_, ⟨?_, ⟨?_, ?_⟩, ?_, ?_⟩, trivial⟩
  · intro p hp hne
    rw [houtside p hp, if_neg hne]
  · rw [houtside place hplace, if_pos rfl]
    rfl
  · rw [h'.older e.next (by omega), h.older e.next (Nat.lt_succ_self _)]
    exact attributes?_planted hfresh place _
  · rw [h'.others ⟨some e.next, .yes⟩ ?_ (by simp)]
    · exact h.here
    · rintro k hk
      cases hk
      omega
  · refine h.stand.of_agree (h'.agree (by rw [hnext]; exact Nat.le_refl _) ?_)
    rintro k hk
    cases hk
    exact Or.inl (Nat.lt_succ_self _)
  · rw [h'.here, hnext]
    rfl
  · have hno := h'.stand
    rwa [hnext] at hno

/-! ### Adding -/

theorem filter_field {slots : List Slot} {name : String} (hname : ∀ slot ∈ slots, slot.name ≠ name)
    (v : Json) :
    ((Item.field name v).filter fun m => !slots.any (·.name = m.1)) = Item.field name v := by
  unfold Item.field
  cases v.speaks with
  | false => rfl
  | true => simpa using hname

/-- What a block keeps of the object that is written for it. -/
theorem filter_block (text : String) (cond : Json) (items : List Item) :
    ((Item.block text cond items).toJson.members.filter fun m =>
      !([Slot.items].any (·.name = m.1))) = (Item.block text cond items).ownAttributes := by
  have hfield := fun name (hname : ∀ slot ∈ [Slot.items], slot.name ≠ name) => filter_field hname
  simp only [Item.toJson, Item.typed, Json.members, Item.ownAttributes, List.filter_cons,
    List.filter_append, hfield "text" (by decide), hfield "cond" (by decide)]
  simp [Slot.name]

/-- What a yes/no question keeps of the object that is written for it. -/
theorem filter_yesNo (q : Question) (yes no : List Item) :
    ((Item.yesNo q yes no).toJson.members.filter fun m =>
      !([Slot.yes, .no].any (·.name = m.1))) = (Item.yesNo q yes no).ownAttributes := by
  have hfield := fun name (hname : ∀ slot ∈ [Slot.yes, .no], slot.name ≠ name) => filter_field hname
  simp only [Item.toJson, Item.typed, Json.members, Item.ownAttributes, Item.questionFields,
    Item.questionHead, List.filter_cons, List.filter_append, hfield "id" (by decide),
    hfield "text" (by decide), hfield "required" (by decide), hfield "placeholder" (by decide),
    hfield "cond" (by decide)]
  cases yes.isEmpty <;> cases no.isEmpty <;> simp [Slot.name]

/-- A block is recorded before what it holds. -/
theorem run_insert_block_eq (text : String) (cond : Json) (items : List Item) (e : Editor)
    (place : Place) :
    (insert place .last (Item.block text cond items).toJson).run e =
      Attempt.andThen
        ((insertSlot e.next .items (Item.block text cond items).toJson.members).run
          (e.planted place (Item.block text cond items).ownAttributes))
        fun _ => pure e.next := by
  have hslots : Slot.ofType (.str "block") = .ok [.items] := rfl
  have hinsert := run_insert e place (Item.block text cond items).toJson.members hslots
  rw [filter_block] at hinsert
  refine hinsert.trans ?_
  simp [insertSlots, -bind_pure_comp]

/-- A yes/no question is recorded first, then what stands under yes, then what stands under
no. -/
theorem run_insert_yesNo_eq (q : Question) (yes no : List Item) (e : Editor) (place : Place) :
    (insert place .last (Item.yesNo q yes no).toJson).run e =
      Attempt.andThen
        ((insertSlot e.next .yes (Item.yesNo q yes no).toJson.members).run
          (e.planted place (Item.yesNo q yes no).ownAttributes))
        (fun _ => insertSlot e.next .no (Item.yesNo q yes no).toJson.members >>= fun _ =>
          pure e.next) := by
  have hslots : Slot.ofType (.str "yesno") = .ok [.yes, .no] := rfl
  have hinsert := run_insert e place (Item.yesNo q yes no).toJson.members hslots
  rw [filter_yesNo] at hinsert
  refine hinsert.trans ?_
  simp [insertSlots, -bind_pure_comp]

/-- What is found under the slots of a container in the object that is written for it. -/
theorem get?_items_block (text : String) (cond : Json) (items : List Item) :
    (Item.block text cond items).toJson.members.get? "items" =
      some (.arr (Item.allToJson items)) := by
  simp [Item.toJson, Item.typed, Json.members, Entries.get?_cons, Entries.get?_append,
    Item.get?_field]

theorem get?_yes_yesNo (q : Question) (yes no : List Item) :
    (Item.yesNo q yes no).toJson.members.get? "yes" = some (.arr (Item.allToJson yes)) ∨
      yes = [] ∧ (Item.yesNo q yes no).toJson.members.get? "yes" = none := by
  cases yes <;> cases no <;>
    simp [Item.toJson, Item.typed, Json.members, Item.questionFields, Item.questionHead,
      Entries.get?_cons, Entries.get?_append, Item.get?_field]

theorem get?_no_yesNo (q : Question) (yes no : List Item) :
    (Item.yesNo q yes no).toJson.members.get? "no" = some (.arr (Item.allToJson no)) ∨
      no = [] ∧ (Item.yesNo q yes no).toJson.members.get? "no" = none := by
  cases yes <;> cases no <;>
    simp [Item.toJson, Item.typed, Json.members, Item.questionFields, Item.questionHead,
      Entries.get?_cons, Entries.get?_append, Item.get?_field]

/-- Items can be added to any list that is there or is made for a new item. -/
def Addable (items : List Item) : Prop :=
  ∀ (e : Editor) (place : Place), e.Fresh → place.Before e.next →
    ∃ e', (insertAll place (Item.allToJson items)).run e = (.ok (), e') ∧
      Grown e e' place (e.children place) items

theorem run_insertSlot_addable {s : Editor} {handle : Nat} (slot : Slot) {ms : Entries Json}
    {items : List Item} (hitems : Addable items)
    (hslot : ms.get? slot.name = some (.arr (Item.allToJson items)) ∨
      items = [] ∧ ms.get? slot.name = none) (hfresh : s.Fresh) (hhandle : handle < s.next) :
    ∃ s', (insertSlot handle slot ms).run s = (.ok (), s') ∧
      Grown s s' ⟨some handle, slot⟩ [] items := by
  have hbefore : Place.Before ⟨some handle, slot⟩ s.next := by
    rintro k hk
    cases hk
    exact hhandle
  obtain ⟨s', hrun, hgrown⟩ := hitems (s.putList ⟨some handle, slot⟩ []) ⟨some handle, slot⟩
    hfresh hbefore
  exact ⟨s', (run_insertSlot hslot handle s).trans hrun, hgrown.of_putList⟩

theorem run_insert_leaf {item : Item} (hleaf : item.IsLeaf)
    (hobject : item.toJson.isObject = true) (hgenuine : item.Genuine) (husable : item.TypeUsable)
    (e : Editor) (place : Place) :
    (insert place .last item.toJson).run e =
      (.ok e.next, e.planted place item.ownAttributes) := by
  obtain ⟨slots, hslots⟩ := husable
  have hnone : slots = [] := slots_leaf hleaf hobject hgenuine hslots
  rw [toJson_leaf hleaf hobject, hnone] at hslots
  rw [toJson_leaf hleaf hobject, run_insert e place item.ownAttributes hslots]
  have hall : (item.ownAttributes.filter fun m => !([] : List Slot).any (·.name = m.1)) =
      item.ownAttributes := List.filter_eq_self.mpr fun _ _ => rfl
  rw [hall]
  rfl

theorem run_insert_block {text : String} {cond : Json} {items : List Item} {e : Editor}
    {place : Place} (hitems : Addable items) (hfresh : e.Fresh) (hplace : place.Before e.next) :
    ∃ e', (insert place .last (Item.block text cond items).toJson).run e = (.ok e.next, e') ∧
      Grown e e' place (e.children place) [.block text cond items] := by
  have hplanted := extends_planted hfresh place (Item.block text cond items).ownAttributes
  have hslot : (Item.block text cond items).toJson.members.get? Slot.items.name =
        some (.arr (Item.allToJson items)) ∨
      items = [] ∧ (Item.block text cond items).toJson.members.get? Slot.items.name = none :=
    Or.inl (get?_items_block text cond items)
  obtain ⟨e', hrun, hgrown⟩ := run_insertSlot_addable .items hitems hslot hplanted.fresh
    (Nat.lt_succ_self e.next)
  refine ⟨e', ?_, grown_block hfresh hplace hgrown⟩
  rw [run_insert_block_eq, hrun]
  rfl

theorem run_insert_yesNo {q : Question} {yes no : List Item} {e : Editor} {place : Place}
    (hyes : Addable yes) (hno : Addable no) (hfresh : e.Fresh) (hplace : place.Before e.next) :
    ∃ e', (insert place .last (Item.yesNo q yes no).toJson).run e = (.ok e.next, e') ∧
      Grown e e' place (e.children place) [.yesNo q yes no] := by
  have hplanted := extends_planted hfresh place (Item.yesNo q yes no).ownAttributes
  obtain ⟨e', hrun, hgrown⟩ := run_insertSlot_addable .yes hyes (get?_yes_yesNo q yes no)
    hplanted.fresh (Nat.lt_succ_self e.next)
  have hhandle : e.next < e'.next := by
    rw [hgrown.next, hplanted.next]
    omega
  obtain ⟨e'', hrun', hgrown'⟩ :=
    run_insertSlot_addable .no hno (get?_no_yesNo q yes no) hgrown.fresh hhandle
  refine ⟨e'', ?_, grown_yesNo hfresh hplace hgrown hgrown'⟩
  rw [run_insert_yesNo_eq, hrun, Attempt.andThen_ok, Attempt.run_bind, hrun']
  rfl

/-- Adding the first item and then the others. -/
theorem run_insertAll_cons {item : Item} (hobject : item.toJson.isObject = true)
    (items : List Item) (e : Editor) (place : Place) :
    (insertAll place (Item.allToJson (item :: items))).run e =
      Attempt.andThen ((insert place .last item.toJson).run e) fun _ =>
        insertAll place (Item.allToJson items) := by
  rw [Item.allToJson, insertAll, hobject, if_pos rfl]
  simp

mutual

/-- **An item is added with all that it holds.** -/
theorem run_insert_item {item : Item} (hobject : item.Throughout (·.toJson.isObject = true))
    (hgenuine : item.Genuine) (husable : item.Throughout Item.TypeUsable) {e : Editor}
    {place : Place} (hfresh : e.Fresh) (hplace : place.Before e.next) :
    ∃ e', (insert place .last item.toJson).run e = (.ok e.next, e') ∧
      Grown e e' place (e.children place) [item] := by
  cases item with
  | block text cond items =>
      exact run_insert_block (addable hobject.2 hgenuine husable.2) hfresh hplace
  | yesNo q yes no =>
      exact run_insert_yesNo (addable hobject.2.1 hgenuine.1 husable.2.1)
        (addable hobject.2.2 hgenuine.2 husable.2.2) hfresh hplace
  | info | tip | spacer | line | box | check | radio | radioGroup | checkGroup | unknown =>
      refine ⟨_, ?_, grown_leaf trivial hfresh⟩
      apply run_insert_leaf
      · trivial
      · exact hobject
      · exact hgenuine
      · exact husable

/-- The same for a list of items. -/
theorem addable {items : List Item} (hobject : Item.AllThroughout (·.toJson.isObject = true) items)
    (hgenuine : Item.AllGenuine items) (husable : Item.AllThroughout Item.TypeUsable items) :
    Addable items := by
  intro e place hfresh hplace
  cases items with
  | nil => exact ⟨e, rfl, Grown.nil hfresh place⟩
  | cons item items =>
      obtain ⟨e₁, hrun₁, hgrown₁⟩ := run_insert_item hobject.1 hgenuine.1 husable.1 hfresh hplace
      have hplace₁ : place.Before e₁.next := hplace.mono (by rw [hgrown₁.next]; omega)
      obtain ⟨e₂, hrun₂, hgrown₂⟩ :=
        addable hobject.2 hgenuine.2 husable.2 e₁ place hgrown₁.fresh hplace₁
      refine ⟨e₂, ?_, hgrown₁.cons hplace hgrown₂⟩
      rw [run_insertAll_cons hobject.1.here, hrun₁]
      exact hrun₂

end

/-! ### What cannot be taken apart -/

theorem error_ofType {type : Json} {m : Misfit} (h : Slot.ofType type = .error m) : m = .kind := by
  unfold Slot.ofType at h
  split at h
  case h_1 => cases h
  case h_2 => cases h
  case h_3 => exact (Except.error.inj h).symm
  case h_4 => exact (Except.error.inj h).symm
  case h_5 => cases h

/-- Adding items fails at one whose type cannot be looked up. -/
def Unaddable (items : List Item) : Prop :=
  ∀ (e : Editor) (place : Place), e.Fresh → place.Before e.next →
    ((insertAll place (Item.allToJson items)).run e).1 = .error (.misfit .kind)

/-- A step that fails is what the attempt fails with. -/
theorem andThen_of_error {σ α β : Type} {reached : Except Failure α × σ} {failure : Failure}
    (h : reached.1 = .error failure) (next : α → Attempt σ β) :
    (Attempt.andThen reached next).1 = .error failure := by
  obtain ⟨outcome, s⟩ := reached
  cases h
  rfl

theorem run_insertSlot_unaddable {s : Editor} {handle : Nat} (slot : Slot) {ms : Entries Json}
    {items : List Item} (hitems : Unaddable items)
    (hslot : ms.get? slot.name = some (.arr (Item.allToJson items)) ∨
      items = [] ∧ ms.get? slot.name = none) (hfresh : s.Fresh) (hhandle : handle < s.next) :
    ((insertSlot handle slot ms).run s).1 = .error (.misfit .kind) := by
  rw [run_insertSlot hslot]
  refine hitems (s.putList ⟨some handle, slot⟩ []) ⟨some handle, slot⟩ hfresh ?_
  rintro k hk
  cases hk
  exact hhandle

theorem run_insert_unusable (item : Item) (hleaf : item.IsLeaf)
    (hobject : item.toJson.isObject = true) (h : ¬item.TypeUsable) (e : Editor) (place : Place) :
    ((insert place .last item.toJson).run e).1 = .error (.misfit .kind) := by
  cases hslots : Slot.ofType (item.toJson.getD "type") with
  | ok slots => exact absurd ⟨slots, hslots⟩ h
  | error m =>
      have hm : m = .kind := error_ofType hslots
      rw [toJson_leaf hleaf hobject, hm] at hslots
      rw [toJson_leaf hleaf hobject]
      exact run_insert_misfit e place item.ownAttributes hslots

mutual

/-- An item is not added if the type of anything in it cannot be looked up. -/
theorem run_insert_item_misfit {item : Item}
    (hobject : item.Throughout (·.toJson.isObject = true)) (hgenuine : item.Genuine)
    (h : ¬item.Throughout Item.TypeUsable) {e : Editor} (place : Place) (hfresh : e.Fresh) :
    ((insert place .last item.toJson).run e).1 = .error (.misfit .kind) := by
  cases item with
  | block text cond items =>
      have hitems : Unaddable items :=
        unaddable hobject.2 hgenuine fun husable => h ⟨⟨_, rfl⟩, husable⟩
      have hplanted := extends_planted hfresh place (Item.block text cond items).ownAttributes
      rw [run_insert_block_eq]
      exact andThen_of_error (run_insertSlot_unaddable .items hitems
        (Or.inl (get?_items_block text cond items)) hplanted.fresh (Nat.lt_succ_self e.next)) _
  | yesNo q yes no =>
      have hplanted := extends_planted hfresh place (Item.yesNo q yes no).ownAttributes
      rw [run_insert_yesNo_eq]
      by_cases husable : Item.AllThroughout Item.TypeUsable yes
      · obtain ⟨e', hrun, hgrown⟩ := run_insertSlot_addable .yes
          (addable hobject.2.1 hgenuine.1 husable) (get?_yes_yesNo q yes no) hplanted.fresh
          (Nat.lt_succ_self e.next)
        have hno : Unaddable no :=
          unaddable hobject.2.2 hgenuine.2 fun hrest => h ⟨⟨_, rfl⟩, husable, hrest⟩
        have hhandle : e.next < e'.next := by
          rw [hgrown.next, hplanted.next]
          omega
        rw [hrun, Attempt.andThen_ok, Attempt.run_bind]
        exact andThen_of_error (run_insertSlot_unaddable .no hno
          (get?_no_yesNo q yes no) hgrown.fresh hhandle) _
      · exact andThen_of_error (run_insertSlot_unaddable .yes
          (unaddable hobject.2.1 hgenuine.1 husable) (get?_yes_yesNo q yes no) hplanted.fresh
          (Nat.lt_succ_self e.next)) _
  | info | tip | spacer | line | box | check | radio | radioGroup | checkGroup =>
      exact absurd ⟨_, rfl⟩ h
  | unknown type source =>
      exact run_insert_unusable (.unknown type source) trivial hobject h e place

/-- The same for a list of items. -/
theorem unaddable {items : List Item}
    (hobject : Item.AllThroughout (·.toJson.isObject = true) items)
    (hgenuine : Item.AllGenuine items) (h : ¬Item.AllThroughout Item.TypeUsable items) :
    Unaddable items := by
  intro e place hfresh hplace
  cases items with
  | nil => exact absurd trivial h
  | cons item items =>
      rw [run_insertAll_cons hobject.1.here]
      by_cases husable : item.Throughout Item.TypeUsable
      · obtain ⟨e₁, hrun₁, hgrown₁⟩ :=
          run_insert_item hobject.1 hgenuine.1 husable hfresh hplace
        have hplace₁ : place.Before e₁.next := hplace.mono (by rw [hgrown₁.next]; omega)
        rw [hrun₁]
        exact unaddable hobject.2 hgenuine.2 (fun hrest => h ⟨husable, hrest⟩) e₁ place
          hgrown₁.fresh hplace₁
      · exact andThen_of_error
          (run_insert_item_misfit hobject.1 hgenuine.1 husable place hfresh) _

end

/-! ### Whole documents -/

/-- The editor that a document is put into. -/
def start (d : Document) : Editor := { version := .int d.version }

theorem fresh_start (d : Document) : (start d).Fresh := fun _ hitem => nomatch hitem

theorem before_top (n : Nat) : Place.top.Before n := fun _ h => nomatch h

theorem ofDocument_eq (d : Document) :
    ofDocument d =
      match (insertAll .top (Item.allToJson d.items)).run (start d) with
      | (.ok (), e) => .ok e
      | (.error f, _) => .error f := rfl

variable {d : Document}

/-- **A document whose items are all objects with a usable type is opened, and what was opened
is described by the object that is written for the document.** -/
theorem ofDocument_of_usable (hobject : ∀ n ∈ d.outline, n.item.toJson.isObject = true)
    (hgenuine : Item.AllGenuine d.items) (husable : ∀ n ∈ d.outline, n.item.TypeUsable) :
    ∃ e, ofDocument d = .ok e ∧ e.toJson = d.toJson := by
  have hobject' := (Document.forall_outlineItems (P := (·.toJson.isObject = true)) [] 0 d.items).mp
    hobject
  have husable' := (Document.forall_outlineItems [] 0 d.items).mp husable
  obtain ⟨e, hrun, hgrown⟩ :=
    addable hobject' hgenuine husable' (start d) .top (fresh_start d) (before_top _)
  have hlength : e.live.length = Item.sizes d.items := by
    rw [hgrown.count]
    exact Nat.zero_add _
  have hchildren : e.children .top = handlesFrom 0 d.items := hgrown.here
  have hstand : AllStand e 0 d.items := hgrown.stand
  have hitems := describe_of_allStand hobject' hgenuine hstand (Nat.le_of_eq hlength.symm)
  refine ⟨e, by rw [ofDocument_eq, hrun], ?_⟩
  rw [toJson, hgrown.version, hchildren, hitems]
  rfl

/-- A document with an item whose type cannot be looked up is not opened. -/
theorem ofDocument_of_not_usable (hobject : ∀ n ∈ d.outline, n.item.toJson.isObject = true)
    (hgenuine : Item.AllGenuine d.items) (husable : ¬∀ n ∈ d.outline, n.item.TypeUsable) :
    ofDocument d = .error (.misfit .kind) := by
  have hobject' := (Document.forall_outlineItems (P := (·.toJson.isObject = true)) [] 0 d.items).mp
    hobject
  rw [Document.outline, Document.forall_outlineItems] at husable
  have hfail := unaddable hobject' hgenuine husable (start d) .top (fresh_start d) (before_top _)
  rw [ofDocument_eq]
  cases hrun : (insertAll .top (Item.allToJson d.items)).run (start d) with
  | mk outcome e =>
      rw [hrun] at hfail
      cases hfail
      rfl

end Editor

end Questionnaire
