/-
Putting a new item into a document.

A new item has the attributes that its type starts out with and those that it is given.  What it
is given may hold further items, and these go in with it unless one of them has a type that cannot
be looked up, or what stands where items should stand is no list: `Insertable` says when the
attempt ends well, `ends_insert`.  An editor that a document stands in then shows what is read as
the document with one more tree in the list at a place, `Drafted.run_add_at`.  The trees stand for
the items of the document, `toItem_ofItem`, so that at the top this is one more item,
`Drafted.run_add`.

Whether there is something to be found in it depends on what the new item is given.  One that is
given nothing, and that needs no options, leaves nothing to be found, `Drafted.issues_add`.
-/
import Questionnaire.Proofs.Editor.Inserting
import Questionnaire.Proofs.Editor.Removing

namespace Questionnaire

namespace Item

mutual

/-- Whatever a writable item holds is writable. -/
theorem Writable.throughout {item : Item} (h : item.Writable) : item.Throughout Writable := by
  cases item with
  | block text cond items => exact ⟨h, AllWritable.throughout h.2⟩
  | yesNo q yes no => exact ⟨h, AllWritable.throughout h.2.1, AllWritable.throughout h.2.2⟩
  | info | tip | spacer | line | box | check | radio | radioGroup | checkGroup | unknown => exact h

theorem AllWritable.throughout {items : List Item} (h : AllWritable items) :
    AllThroughout Writable items := by
  cases items with
  | nil => trivial
  | cons item items => exact ⟨h.1.throughout, h.2.throughout⟩

end

/-- What a writable item has of its own can be written. -/
theorem Writable.own {item : Item} (h : item.Writable) (hobject : item.toJson.isObject = true) :
    (Json.obj item.ownAttributes).Writable := by
  have hwritten := writable_toJson item h
  cases item with
  | block text cond items =>
      rw [← Editor.filter_block text cond items]
      exact Editor.Tree.writable_filter hwritten _
  | yesNo q yes no =>
      rw [← Editor.filter_yesNo q yes no]
      exact Editor.Tree.writable_filter hwritten _
  | info | tip | spacer | line | box | check | radio | radioGroup | checkGroup | unknown =>
      rw [Editor.toJson_leaf ?_ hobject] at hwritten
      · exact hwritten
      · trivial

end Item

namespace Document

/-- The document with one more item among those at the top, behind so many of them. -/
def withItem (d : Document) (n : Nat) (item : Item) : Document :=
  { d with items := d.items.take n ++ item :: d.items.drop n }

end Document

namespace Editor

open Questionnaire.Editor.Tree

variable {e : Editor} {d : Document} {name : String} {start members attributes : Entries Json}

/-! ### New attributes -/

/-- Attributes of a new item of a type that is known. -/
structure Starting (name : String) (attributes : Entries Json) : Prop where
  type : attributes.get? "type" = some (.str name)
  known : (starter? name).isSome = true
  writable : (Json.obj attributes).Writable

/-- Nothing stands under the name of a slot. -/
def Bare (attributes : Entries Json) : Prop := ∀ slot : Slot, attributes.get? slot.name = none

/-- What a new item starts out with, overridden by what it is given, all but its type. -/
def overridden (name : String) (start members : Entries Json) : Entries Json :=
  (start.setAll members).set "type" (.str name)

/-- What a type starts out with holds nothing and has no id. -/
theorem starting_starter (h : starter? name = some start) :
    Starting name start ∧ Bare start ∧ start.get? "id" = none := by
  unfold starter? at h
  split at h
  case h_12 => cases h
  all_goals
    cases h
    refine ⟨⟨rfl, rfl, ?_⟩, ?_, rfl⟩
    · simp [Json.writable_obj, Json.writable_str, Json.writable_bool, Json.writable_arr]
    · rintro (_ | _) <;> rfl

theorem Starting.set (h : Starting name start) {key : String} (hkey : key ≠ "type") {value : Json}
    (hvalue : value.Writable) : Starting name (start.set key value) where
  type := (Entries.get?_set_of_ne _ _ hkey.symm).trans h.type
  known := h.known
  writable := Json.writable_set h.writable key hvalue

theorem Bare.set (h : Bare start) {key : String} (hkey : ∀ slot : Slot, slot.name ≠ key)
    (value : Json) : Bare (start.set key value) :=
  fun slot => (Entries.get?_set_of_ne _ _ (hkey slot)).trans (h slot)

/-- A new item holds nothing, whatever id was made up for it. -/
theorem starting_defaultItem (h : e.defaultItem (.str name) = .ok start) :
    Starting name start ∧ Bare start := by
  simp only [defaultItem, Json.str?, Option.bind_some] at h
  cases hstarter : starter? name with
  | none => rw [hstarter] at h; cases h
  | some first =>
      obtain ⟨hstarting, hbare, hid⟩ := starting_starter hstarter
      rw [hstarter] at h
      simp only [Option.map_some] at h
      cases hstem : stem? name with
      | none => rw [hstem] at h; cases h; exact ⟨hstarting, hbare⟩
      | some stem =>
          rw [hstem] at h
          simp only at h
          cases hgenerate : e.generateId stem with
          | error m => rw [hgenerate] at h; cases h
          | ok id =>
              rw [hgenerate] at h
              cases h
              rw [← Entries.set_of_get?_eq_none hid]
              exact ⟨hstarting.set (by decide) (Json.writable_str id),
                hbare.set (fun slot => by cases slot <;> decide) _⟩

/-- Where every item is orderly, there is a new item of every type that is known. -/
theorem exists_defaultItem (horderly : AllOrderly (e.live.map Live.attributes))
    (hknown : (starter? name).isSome = true) :
    ∃ start, e.defaultItem (.str name) = .ok start := by
  obtain ⟨used, hused, -⟩ := usedIds_of_forall (e := e) fun item hitem =>
    ⟨_, (horderly.each _ (List.mem_map_of_mem hitem)).ids⟩
  obtain ⟨first, hfirst⟩ := Option.isSome_iff_exists.mp hknown
  simp only [defaultItem, Json.str?, Option.bind_some, hfirst, Option.map_some]
  cases stem? name with
  | none => exact ⟨first, rfl⟩
  | some stem =>
      obtain ⟨n, hid, -⟩ := generateId_free hused stem
      simp only [hid]
      exact ⟨_, rfl⟩

/-- A new item keeps its type whatever it is given. -/
theorem starting_overridden (h : Starting name start) (hmembers : ∀ m ∈ members, m.2.Writable) :
    Starting name (overridden name start members) where
  type := Entries.get?_set_self _ _ _
  known := h.known
  writable := Json.writable_set (Json.writable_setAll h.writable hmembers) "type"
    (Json.writable_str name)

theorem bare_overridden (h : Bare start) (hmembers : Bare members) (name : String) :
    Bare (overridden name start members) :=
  Bare.set (fun slot => Entries.get?_setAll_eq_none (h slot) (hmembers slot)) Slot.name_ne_type _

theorem overridden_nil (h : Starting name start) : overridden name start [] = start :=
  Entries.set_of_get? h.type

/-- The item that new attributes stand for can be checked, for its type is known. -/
theorem Starting.checkable (h : Starting name attributes) : (itemOf attributes).Checkable := by
  obtain ⟨start, hstart⟩ := Option.isSome_iff_exists.mp h.known
  have htype : Json.getD (.obj attributes) "type" = .str name := by
    show (attributes.get? "type").getD .null = _
    rw [h.type]
    rfl
  rw [itemOf, leaf, toItem, h.type]
  unfold starter? at hstart
  split at hstart
  case h_12 => cases hstart
  all_goals
    simp only [Item.readLeaf, htype]
    exact fun _ => ⟨_, rfl⟩

/-! ### The tree of a new item that holds nothing -/

theorem Bare.slotInsertable (h : Bare attributes) (slot : Slot) :
    SlotInsertable slot attributes := by
  have hnone : Entries.get? attributes slot.name = none := h slot
  clear h
  induction attributes with
  | nil => trivial
  | cons m ms ih =>
      obtain ⟨n, v⟩ := m
      rw [Entries.get?_cons] at hnone
      by_cases hn : n = slot.name
      · rw [if_pos hn.symm] at hnone
        cases hnone
      · rw [if_neg (Ne.symm hn)] at hnone
        rw [SlotInsertable, if_neg hn]
        exact ih hnone

/-- A new item that holds nothing can be put in. -/
theorem Bare.insertable (h : Bare attributes) (hstarting : Starting name attributes) :
    Insertable (.obj attributes) := by
  obtain ⟨slots, hslots⟩ := exists_ofType name
  rw [Insertable, hstarting.type]
  exact ⟨slots, hslots, fun slot _ => h.slotInsertable slot⟩

theorem Bare.tidy (h : Bare attributes) : Slot.Tidy attributes := fun slot _ => h slot

theorem Bare.read_eq (h : Bare attributes) (first : Nat) :
    read first (.obj attributes) = leaf first attributes := by
  have hslot (first : Nat) (slot : Slot) : readSlot first slot attributes = [] := by
    rw [readSlot_eq, h slot]
    rfl
  have hnothing : filled [] [] [] = fun _ => [] := by
    funext slot
    cases slot <;> rfl
  rcases Slot.ofAttributes_cases attributes with ⟨-, hslots⟩ | ⟨-, hslots⟩ | ⟨-, -, hslots⟩
  · rw [read_of_block first hslots, own_of_tidy h.tidy, hslot, hnothing, leaf]
  · rw [read_of_yesNo first hslots, own_of_tidy h.tidy, hslot, hslot, hnothing, leaf]
  · rw [read_of_no_slots first hslots, own_of_tidy h.tidy]

theorem toItem_leaf (k : Nat) (attributes : Entries Json) :
    (leaf k attributes).toItem = itemOf attributes := by
  rw [itemOf, leaf, leaf, toItem, toItem]

/-! ### What the trees of items stand for -/

/-- A node with the attributes of a block stands for a block. -/
theorem toItem_node_block (first : Nat) (text : String) (cond : Json) (items : List Item)
    (inside : Slot → List Tree) :
    toItem (.node first (Item.block text cond items).ownAttributes inside) =
      .block text cond.settled (allToItem (inside .items)) := by
  have hfields : Json.obj (Item.block text cond items).ownAttributes =
      Item.typed "block" (Item.field "text" (.str text) ++ Item.field "cond" cond) := rfl
  have htype : Entries.get? (Item.block text cond items).ownAttributes "type" =
      some (.str "block") := rfl
  have htext : Json.getD (.obj (Item.block text cond items).ownAttributes) "text" =
      (Json.str text).settled := by
    simp [hfields, Item.getD_typed, Entries.get?_append, Item.get?_field, Item.getD_spoken]
  have hcond : Json.getD (.obj (Item.block text cond items).ownAttributes) "cond" =
      cond.settled := by
    simp [hfields, Item.getD_typed, Entries.get?_append, Item.get?_field, Item.getD_spoken]
  rw [toItem, htype]
  simp only [htext, hcond, Item.text_settled_str]

/-- A node with the attributes of a yes/no question stands for one. -/
theorem toItem_node_yesNo (first : Nat) (q : Question) (yes no : List Item)
    (inside : Slot → List Tree) :
    toItem (.node first (Item.yesNo q yes no).ownAttributes inside) =
      .yesNo q.settled (allToItem (inside .yes)) (allToItem (inside .no)) := by
  have htype : Entries.get? (Item.yesNo q yes no).ownAttributes "type" =
      some (.str "yesno") := rfl
  have hquestion : Item.readQuestion (.obj (Item.yesNo q yes no).ownAttributes) = q.settled := by
    have hread := Item.readQuestion_questionFields "yesno" q none [] fun _ _ => rfl
    rwa [List.append_nil] at hread
  rw [toItem, htype]
  simp only [hquestion]

theorem toItem_ofItem_leaf {item : Item} (hleaf : item.IsLeaf)
    (hobject : item.toJson.isObject = true) (hgenuine : item.Genuine) (first : Nat) :
    (ofItem first item).toItem = item.settled := by
  have hslots := ofAttributes_leaf hleaf hobject hgenuine
  have htidy : Slot.Tidy item.ownAttributes := Slot.tidy_of_no_slots hslots
  have hwritten : (leaf first item.ownAttributes).toJson = item.toJson := by
    rw [leaf, toJson_of_tidy htidy, hslots, slotEntries, List.filterMap_nil, List.append_nil,
      toJson_leaf hleaf hobject]
  have hread : Item.read (leaf first item.ownAttributes).toJson =
      some (leaf first item.ownAttributes).toItem := by
    refine read_toJson fun n hn => ?_
    rw [← allNodes_singleton, allNodes_leaf, List.mem_singleton] at hn
    rw [hn]
    exact htidy
  rw [hwritten, Item.read_toJson item hgenuine] at hread
  rw [ofItem_leaf hleaf]
  exact (Option.some.inj hread).symm

mutual

/-- The tree of an item stands for the item, settled. -/
theorem toItem_ofItem {item : Item} (hobject : item.Throughout (·.toJson.isObject = true))
    (hgenuine : item.Genuine) (first : Nat) : (ofItem first item).toItem = item.settled := by
  cases item with
  | block text cond items =>
      have hitems := allToItem_ofItems hobject.2 hgenuine (first + 1)
      rw [ofItem, toItem_node_block, filled, hitems, Item.settled]
  | yesNo q yes no =>
      have hyes := allToItem_ofItems hobject.2.1 hgenuine.1 (first + 1)
      have hno := allToItem_ofItems hobject.2.2 hgenuine.2 (first + 1 + Item.sizes yes)
      rw [ofItem, toItem_node_yesNo, filled, filled, hyes, hno, Item.settled]
  | info | tip | spacer | line | box | check | radio | radioGroup | checkGroup | unknown =>
      refine toItem_ofItem_leaf ?_ hobject hgenuine first
      trivial

theorem allToItem_ofItems {items : List Item}
    (hobject : Item.AllThroughout (·.toJson.isObject = true) items)
    (hgenuine : Item.AllGenuine items) (first : Nat) :
    allToItem (ofItems first items) = Item.allSettled items := by
  cases items with
  | nil => rfl
  | cons item items =>
      have hitem := toItem_ofItem hobject.1 hgenuine.1 first
      have hitems := allToItem_ofItems hobject.2 hgenuine.2 (first + item.size)
      rw [ofItems, allToItem, hitem, hitems, Item.allSettled]

end

/-! ### Putting it into a list -/

theorem place_top (e : Editor) : e.place none (.str "items") = .ok .top := rfl

section

variable {parent : Option Int} {slot : Json} {place : Place} {position : Position}

theorem fst_add (hplace : e.place parent slot = .ok place) (ms : Entries Json) :
    ((add (.obj ms) parent slot position).run e).1 =
      ((insert place position (.obj ms)).run e).1 := by
  rw [add]
  simp only [Json.isObject, Bool.not_true, Bool.false_eq_true, if_false, Attempt.run_bind,
    Attempt.run_get, Attempt.andThen_ok, Attempt.run_lift, hplace]
  cases (insert place position (.obj ms)).run e with
  | mk outcome after => cases outcome <;> rfl

/-- A value is not put anywhere if there is no such place. -/
theorem fst_add_of_no_place {failure : Failure} (hplace : e.place parent slot = .error failure)
    (ms : Entries Json) : ((add (.obj ms) parent slot position).run e).1 = .error failure := by
  rw [add]
  simp only [Json.isObject, Bool.not_true, Bool.false_eq_true, if_false, Attempt.run_bind,
    Attempt.run_get, Attempt.andThen_ok, Attempt.run_lift, hplace, Attempt.andThen_error]

/-- A value is put into the list at a place just if it can be put in. -/
theorem Depicts.ends_add {w : Woods} (h : Depicts e w) (hplace : e.place parent slot = .ok place)
    (ms : Entries Json) {n : Nat} (hposition : position.offset (e.children place).length = .ok n) :
    (Insertable (.obj ms) → ∃ e', (add (.obj ms) parent slot position).run e = (.ok e.next, e') ∧
      Depicts e' (w.edit place (put position (read e.next (.obj ms))))) ∧
    (¬Insertable (.obj ms) →
      ((add (.obj ms) parent slot position).run e).1 = .error (.misfit .kind)) := by
  obtain ⟨hok, herror⟩ := ends_insert_at hposition fun k slot => ends_insertSlot k slot ms
  rw [← fst_add hplace] at hok herror
  refine ⟨fun hfits => ?_, herror⟩
  obtain ⟨k, hrun⟩ := hok hfits
  obtain rfl := add_gives_next h hrun
  have hled := ledTo_add h (.obj ms) parent slot position
  rw [← Prod.eta ((add (.obj ms) parent slot position).run e), hrun] at hled
  obtain ⟨-, -, -, there, hthere, hafter⟩ := hled.of_ok
  rw [hplace] at hthere
  obtain rfl := Except.ok.inj hthere
  exact ⟨_, Prod.ext hrun rfl, hafter⟩

/-- A value whose type is known is not put anywhere if the position is none. -/
theorem fst_add_of_misplaced (hplace : e.place parent slot = .ok place)
    (hstarting : Starting name attributes) {m : Misfit}
    (hposition : position.offset (e.children place).length = .error m) :
    ((add (.obj attributes) parent slot position).run e).1 = .error (.misfit m) := by
  obtain ⟨slots, hslots⟩ := exists_ofType name
  have htype : Slot.ofType ((attributes.get? "type").getD .null) = .ok slots := by
    rwa [hstarting.type]
  rw [fst_add hplace, run_insert_astray htype hposition]

end

theorem length_ofItems (first : Nat) (items : List Item) :
    (ofItems first items).length = items.length := by
  induction items generalizing first with
  | nil => rfl
  | cons item items ih => rw [ofItems, List.length_cons, ih, List.length_cons]

theorem allToItem_eq_map (ts : List Tree) : allToItem ts = ts.map toItem := by
  induction ts with
  | nil => rfl
  | cons t ts ih => rw [allToItem, ih, List.map_cons]

/-- An item is asked for by its handle. -/
theorem item_of_attributes? {k : Nat} (h : e.attributes? k = some attributes) :
    e.item k = .ok attributes := by
  obtain ⟨item, hitem, rfl⟩ := Option.map_eq_some_iff.mp h
  rw [Editor.item, require_of_find? hitem]
  rfl

namespace Drafted

/-- What a document stands for can be checked. -/
theorem checkable (h : Drafted e d) {t : Tree} (ht : t ∈ allNodes (ofItems 0 d.items)) :
    t.toItem.Checkable := by
  have hnode : t ∈ Woods.nodes ⟨ofItems 0 d.items, []⟩ := by rwa [Woods.nodes_roots]
  obtain ⟨item, hitem, -, hattributes⟩ := h.depicts.live_of_node hnode
  have hfit := (h.orderly.each _ (List.mem_map_of_mem hitem)).fit
  rw [hattributes] at hfit
  exact (hfit.of_account (account_toItem t).symm).checkable

section

variable {parent : Option Int} {slot : Json} {place : Place} {position : Position} {k n : Nat}
  {e' : Editor}

/-- An item that is put in leaves the version as it is. -/
theorem version_of_run_add (h : Drafted e d)
    (hrun : (add (.obj attributes) parent slot position).run e = (.ok k, e')) :
    e'.version = .int d.version := by
  have hlater := (Edit.add (.obj attributes) parent slot position).later_after (Later.refl e)
  rw [Edit.after, Edit.attempt, Attempt.forget_state, hrun] at hlater
  exact hlater.version.trans h.version

/-- The attributes of all that stands in the editor can be written. -/
theorem writable_labels (h : Drafted e d) (hitems : Item.AllWritable d.items) :
    ∀ l ∈ Woods.labels ⟨ofItems 0 d.items, []⟩, (Json.obj l.2).Writable := by
  have hwritable := (Document.forall_outlineItems [] 0 d.items).mpr hitems.throughout
  have hperm := (perm_of_grown h.holds.grown).trans h.depicts.labels
  intro l hl
  obtain ⟨node, hnode, rfl⟩ := List.mem_map.mp (hperm.mem_iff.mpr hl)
  exact (hwritable node hnode).own (h.holds.objects node hnode)

/-- **A value that can be put in is put into a list of the document that stands in an editor,** at
any position that is one.  The document that is shown then stands for the trees with one more in
that list, and the new item has what the value has of its own. -/
theorem run_add_at (h : Drafted e d) (hplace : e.place parent slot = .ok place)
    {ms : Entries Json} (hfits : Insertable (.obj ms)) (hms : (Json.obj ms).Writable)
    (hposition : position.offset (e.children place).length = .ok n)
    (hversion : (Json.int d.version).Writable) (hitems : Item.AllWritable d.items) :
    ∃ e', (add (.obj ms) parent slot position).run e = (.ok e.next, e') ∧
      e'.toDocument = .ok ⟨d.version, allToItem
        (Woods.editAt place (put position (read e.next (.obj ms))) (ofItems 0 d.items))⟩ ∧
      e'.toJson.Writable ∧ e'.item e.next = .ok (Slot.own ms) := by
  obtain ⟨e', hrun, hafter⟩ := (h.depicts.ends_add hplace ms hposition).1 hfits
  have hkept := h.version_of_run_add hrun
  obtain ⟨ts, hlist⟩ := (h.depicts.open_of_place hplace).listAt
  have hperm := Woods.labels_edit_of_perm h.depicts.nodup hlist
    (perm_put (Position.usable_of_offset hposition) (read e.next (.obj ms)) ts)
  rw [Woods.edit_roots] at hafter hperm
  refine ⟨e', hrun, hafter.toDocument_eq hkept, ?_, ?_⟩
  · -- A node is one of before or one of those that came in, by its label.
    rw [hafter.toJson_eq, hkept]
    refine Json.writable_obj.mpr ⟨by simp, List.forall_mem_cons.mpr ⟨hversion,
      List.forall_mem_singleton.mpr (Json.writable_arr.mpr (writable_allToJson fun m hm => ?_))⟩⟩
    have hlabel : m.label ∈ Woods.labels ⟨ofItems 0 d.items, []⟩ ++
        allLabels [read e.next (.obj ms)] :=
      hperm.mem_iff.mp (Woods.label_mem_labels (by rwa [Woods.nodes_roots]))
    rcases List.mem_append.mp hlabel with hold | hnew
    · exact h.writable_labels hitems m.label hold
    · rw [allLabels, allNodes_singleton] at hnew
      obtain ⟨r, hr, hsame⟩ := List.mem_map.mp hnew
      have hattributes : r.attributes = m.attributes := congrArg Prod.snd hsame
      rw [← hattributes]
      exact writable_read e.next (.obj ms) hms r hr
  · have hlabel : (read e.next (.obj ms)).label ∈ allLabels [read e.next (.obj ms)] :=
      List.mem_map_of_mem (by rw [allNodes_singleton]; exact self_mem_nodes _)
    obtain ⟨m, hm, hsame⟩ := List.mem_map.mp
      (hperm.mem_iff.mpr (List.mem_append_right _ hlabel))
    obtain ⟨hhandle, hattributes⟩ := Prod.mk.inj hsame
    have hfound := hafter.attributes? hm
    rw [hhandle, hattributes] at hfound
    exact item_of_attributes? hfound

/-- A new item that needs no options and is given no attributes leaves nothing to be found, wherever
it is put. -/
theorem issues_add (h : Drafted e d) (hradio : name ≠ "radiogroup") (hcheck : name ≠ "checkgroup")
    (hdefault : e.defaultItem (.str name) = .ok start)
    (hrun : (add (.obj start) parent slot position).run e = (.ok k, e')) :
    e'.issues = .ok [] := by
  have hled := ledTo_add h.depicts (.obj start) parent slot position
  rw [hrun] at hled
  obtain ⟨-, -, -, place, -, hafter⟩ := hled.of_ok
  have hplain : (Authoring.add (.str name) parent slot position).Plain :=
    ⟨by simpa using hradio, by simpa using hcheck⟩
  have horderly := Authoring.allOrderly_after hplain h.orderly
  rw [Authoring.run_add, hdefault] at horderly
  simp only [hrun] at horderly
  exact issues_of_allOrderly hafter (h.version_of_run_add hrun) horderly

end

/-! ### At the top -/

/-- There are as many items at the top of the editor as in the document. -/
theorem length_children_top (h : Drafted e d) : (e.children .top).length = d.items.length := by
  rw [h.depicts.children .top, List.length_map, length_ofItems]

/-- The document with one more item is what its trees stand for, with one more among them. -/
theorem withItem_eq (h : Drafted e d) {position : Position} {n : Nat}
    (hposition : position.offset d.items.length = .ok n) (t : Tree) :
    d.settled.withItem n t.toItem =
      ⟨d.version, allToItem (put position t (ofItems 0 d.items))⟩ := by
  have hitems := allToItem_ofItems h.holds.objects' h.holds.genuine 0
  rw [← length_ofItems 0] at hposition
  rw [allToItem_eq_map] at hitems
  rw [allToItem_eq_map, put_of_offset hposition, List.map_append, List.map_cons, List.map_take,
    List.map_drop, hitems]
  rfl

theorem fst_add_of_unfit (h : Drafted e d) {ms : Entries Json} (hunfit : ¬Insertable (.obj ms))
    {position : Position} {n : Nat} (hposition : position.offset d.items.length = .ok n) :
    ((add (.obj ms) none (.str "items") position).run e).1 = .error (.misfit .kind) := by
  rw [← h.length_children_top] at hposition
  exact (h.depicts.ends_add (place_top e) ms hposition).2 hunfit

/-- What an editor shows once a value was put at the top of the document that stood in it: it is
read as the document with one more item, which has a handle and what the value has of its own. -/
structure Placed (d : Document) (n k : Nat) (ms : Entries Json) (e : Editor) : Prop where
  shown : e.toDocument = .ok (d.settled.withItem n (read k (.obj ms)).toItem)
  written : e.toJson.Writable
  item : e.item k = .ok (Slot.own ms)

/-- At the top a value comes to be one more item of the document. -/
theorem run_add (h : Drafted e d) {ms : Entries Json} (hfits : Insertable (.obj ms))
    (hms : (Json.obj ms).Writable) {position : Position} {n : Nat}
    (hposition : position.offset d.items.length = .ok n)
    (hversion : (Json.int d.version).Writable) (hitems : Item.AllWritable d.items) :
    ∃ e', (add (.obj ms) none (.str "items") position).run e = (.ok e.next, e') ∧
      Placed d n e.next ms e' := by
  have hposition' := hposition
  rw [← h.length_children_top] at hposition'
  obtain ⟨e', hrun, hshown, hwritten, hitem⟩ :=
    h.run_add_at (place_top e) hfits hms hposition' hversion hitems
  refine ⟨e', hrun, ?_, hwritten, hitem⟩
  rw [h.withItem_eq hposition]
  exact hshown

/-- A value that holds nothing and whose type is known can be checked in the document. -/
theorem checkable_withItem (h : Drafted e d) {ms : Entries Json} (hstarting : Starting name ms)
    (hbare : Bare ms) {position : Position} {n : Nat}
    (hposition : position.offset d.items.length = .ok n) (k : Nat) :
    ∀ node ∈ (d.settled.withItem n (read k (.obj ms)).toItem).outline, node.item.Checkable := by
  rw [h.withItem_eq hposition]
  intro node hnode
  obtain ⟨t, ht, heq⟩ := List.mem_map.mp
    ((sublist_outlineItems [] 0 _).subset (List.mem_map_of_mem hnode))
  rw [← heq]
  rcases mem_allNodes_put ht with hold | hnew
  · exact h.checkable hold
  · rw [hbare.read_eq, ← allNodes_singleton, allNodes_leaf] at hnew
    rw [List.mem_singleton.mp hnew, toItem_leaf]
    exact hstarting.checkable

end Drafted

end Editor

end Questionnaire
