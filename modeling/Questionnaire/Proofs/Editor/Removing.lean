/-
Taking an item out of a document.

`Document.without` is a document less one item and all that this holds.  Every other item keeps
its own attributes and its place in the order, `own_without`.  An editor that a document was opened
in does nothing else when it removes an item: what it writes then is what is written for the
document without the item, `run_remove_opened`.

The editor works on trees, so the two are compared there: the trees of an opened document are made
of its items one by one, `ofItem`.
-/
import Questionnaire.Proofs.Editor.Authoring
import Questionnaire.Proofs.Editor.Faithful
import Questionnaire.Proofs.Editor.Refinement

namespace Questionnaire

namespace Item

mutual

/-- An item, counted from its own handle on, without the one inside that has a handle. -/
def without (k first : Nat) : Item → Item
  | .block text cond items => .block text cond (allWithout k (first + 1) items)
  | .yesNo q yes no =>
    .yesNo q (allWithout k (first + 1) yes) (allWithout k (first + 1 + sizes yes) no)
  | item => item

/-- Items, counted from a handle on, without the one that has a handle and all that it holds. -/
def allWithout (k first : Nat) : List Item → List Item
  | [] => []
  | item :: items =>
    if first = k then allWithout k (first + item.size) items
    else item.without k first :: allWithout k (first + item.size) items

end

mutual

theorem Writable.without {item : Item} (h : item.Writable) (k first : Nat) :
    (item.without k first).Writable := by
  cases item with
  | block text cond items => exact ⟨h.1, AllWritable.without h.2 k (first + 1)⟩
  | yesNo q yes no =>
      exact ⟨h.1, AllWritable.without h.2.1 k (first + 1),
        AllWritable.without h.2.2 k (first + 1 + sizes yes)⟩
  | info | tip | spacer | line | box | check | radio | radioGroup | checkGroup | unknown => exact h

theorem AllWritable.without {items : List Item} (h : AllWritable items) (k first : Nat) :
    AllWritable (allWithout k first items) := by
  cases items with
  | nil => trivial
  | cons item items =>
      have hitems := AllWritable.without h.2 k (first + item.size)
      rw [allWithout]
      split
      · exact hitems
      · exact ⟨h.1.without k first, hitems⟩

end

end Item

namespace Document

variable {k : Nat}

/-- The document without the item that has a handle and all that it holds. -/
def without (d : Document) (k : Nat) : Document := { d with items := Item.allWithout k 0 d.items }

theorem writable_without {source : Json} {d : Document} (h : load source = .ok d)
    (hsource : source.Writable) (k : Nat) : (d.without k).toJson.Writable := by
  obtain ⟨ms, hd, hms⟩ := ofObject_of_load_source h
  obtain ⟨hversion, hitems⟩ := writable_parts (hms hsource) hd
  exact writable_of_parts hversion (hitems.without k 0)

/-- What the items have of their own, of the nodes that do not stand at a handle or below it. -/
def ownBeside (k : Nat) (nodes : List Node) : List (Entries Json) :=
  (nodes.filter fun n => k ∉ n.handle :: n.above).map (·.item.ownAttributes)

theorem ownBeside_cons {n : Node} {nodes : List Node} (h : k ∉ n.handle :: n.above) :
    ownBeside k (n :: nodes) = n.item.ownAttributes :: ownBeside k nodes := by
  rw [ownBeside, List.filter_cons, if_pos (decide_eq_true h)]
  rfl

theorem ownBeside_append (k : Nat) (nodes more : List Node) :
    ownBeside k (nodes ++ more) = ownBeside k nodes ++ ownBeside k more := by
  rw [ownBeside, List.filter_append, List.map_append]
  rfl

theorem ownBeside_subtree (above : List Nat) (k : Nat) (item : Item) :
    ownBeside k (outlineItem above k item) = [] := by
  rw [ownBeside, List.filter_eq_nil_iff.mpr, List.map_nil]
  exact fun n hn hout => of_decide_eq_true hout (handle_mem_way hn)

mutual

theorem own_without_item {above : List Nat} {first : Nat} (item : Item) (hk : k ∉ first :: above)
    (above' : List Nat) (first' : Nat) :
    (outlineItem above' first' (item.without k first)).map (·.item.ownAttributes) =
      ownBeside k (outlineItem above first item) := by
  cases item with
  | block text cond items =>
      have hitems := own_allWithout items hk (first + 1) (first' :: above') (first' + 1)
      rw [Item.without, outlineItem, outlineItem, ownBeside_cons hk, List.map_cons, hitems]
      rfl
  | yesNo q yes no =>
      have hyes := own_allWithout yes hk (first + 1) (first' :: above')
      have hno := own_allWithout no hk (first + 1 + Item.sizes yes) (first' :: above')
      rw [Item.without, outlineItem, outlineItem, List.cons_append, List.cons_append,
        ownBeside_cons hk, ownBeside_append, List.map_cons, List.map_append, hyes, hno]
      rfl
  | info | tip | spacer | line | box | check | radio | radioGroup | checkGroup | unknown =>
      exact (@ownBeside_cons k ⟨first, above, _⟩ [] hk).symm

/-- What is left of items when one is taken out are the others, in order. -/
theorem own_allWithout {above : List Nat} (items : List Item) (hk : k ∉ above) (first : Nat)
    (above' : List Nat) (first' : Nat) :
    (outlineItems above' first' (Item.allWithout k first items)).map (·.item.ownAttributes) =
      ownBeside k (outlineItems above first items) := by
  cases items with
  | nil => rfl
  | cons item items =>
      have hitems := own_allWithout items hk (first + item.size) above'
      rw [Item.allWithout, outlineItems, ownBeside_append]
      split
      · next hfirst => rw [hitems, hfirst, ownBeside_subtree, List.nil_append]
      · next hfirst =>
          have hout : k ∉ first :: above := by simp [hk, Ne.symm hfirst]
          rw [outlineItems, List.map_append, own_without_item item hout, hitems]

end

/-- **Taking an item out takes away the item and what it holds, and nothing else.**  Every other
item is still there with what it has of its own, and in the same order. -/
theorem own_without (d : Document) (k : Nat) :
    (d.without k).outline.map (·.item.ownAttributes) =
      (d.outline.filter fun n => k ∉ n.handle :: n.above).map (·.item.ownAttributes) :=
  own_allWithout d.items List.not_mem_nil 0 [] 0

end Document

/-- What is listed once comes from one place. -/
theorem eq_of_mem_flatMap {α β : Type} {f : α → List β} {as : List α} (h : (as.flatMap f).Nodup)
    {a b : α} (ha : a ∈ as) (hb : b ∈ as) {x : β} (hxa : x ∈ f a) (hxb : x ∈ f b) : a = b := by
  have hsymm : Std.Symm (Function.onFun List.Disjoint f) :=
    ⟨fun _ _ hab => List.Disjoint.symm hab⟩
  by_contra hne
  exact (List.nodup_flatMap.mp h).2.forall ha hb hne hxa hxb

/-- An id that is not empty leads to the item of a sound document that has it. -/
theorem Validation.Sound.find?_eq {d : Document} (h : Sound d) {n : Document.Node}
    (hn : n ∈ d.outline) {x : String} (hx : x ≠ "") (hid : n.item.id = .str x) :
    d.find? (.str x) = some n := by
  have htruthy : (Json.str x).truthy = true := decide_eq_true hx
  have hmem : ∀ m : Document.Node, m.item.id = .str x → x ∈ m.item.written := by
    intro m hm
    have htext : m.item.idText = x := by
      rw [Item.idText, hm, if_pos htruthy]
      rfl
    rw [Item.written, htext, if_neg hx]
    exact List.mem_append_left _ (List.mem_singleton_self _)
  rw [Document.find?, if_pos htruthy]
  cases hfind : d.outline.find? (·.item.id.equal (.str x)) with
  | none =>
      refine absurd ?_ (List.find?_eq_none.mp hfind n hn)
      rw [hid, Json.equal, beq_self_eq_true]
  | some m =>
      have hfound := List.find?_some hfind
      have hm : m.item.id = .str x := Editor.eq_str_of_equal hfound
      exact congrArg some (eq_of_mem_flatMap h.nodup_written (List.mem_of_find?_eq_some hfind) hn
        (hmem m hm) (hmem n hid))

namespace Editor

open Document (Node outlineItem outlineItems)

namespace Tree

/-! ### The trees of items -/

mutual

/-- The tree of an item with handles from a number on. -/
def ofItem (first : Nat) : Item → Tree
  | .block text cond items =>
    .node first (Item.block text cond items).ownAttributes (filled (ofItems (first + 1) items) [] [])
  | .yesNo q yes no =>
    .node first (Item.yesNo q yes no).ownAttributes
      (filled [] (ofItems (first + 1) yes) (ofItems (first + 1 + Item.sizes yes) no))
  | item => leaf first item.ownAttributes

/-- The trees of items that stand side by side. -/
def ofItems (first : Nat) : List Item → List Tree
  | [] => []
  | item :: items => ofItem first item :: ofItems (first + item.size) items

end

theorem ofItem_leaf {item : Item} (hleaf : item.IsLeaf) (first : Nat) :
    ofItem first item = leaf first item.ownAttributes := by
  cases item with
  | block | yesNo => exact hleaf.elim
  | info | tip | spacer | line | box | check | radio | radioGroup | checkGroup | unknown => rfl

theorem handle_ofItem (first : Nat) (item : Item) : (ofItem first item).handle = first := by
  cases item with
  | block | yesNo => rfl
  | info | tip | spacer | line | box | check | radio | radioGroup | checkGroup | unknown => rfl

mutual

theorem length_handles_ofItem (first : Nat) (item : Item) :
    (ofItem first item).handles.length = item.size := by
  cases item with
  | block text cond items =>
      have hitems := length_allHandles_ofItems (first + 1) items
      rw [ofItem, length_handles_filled, hitems, Item.size, allHandles_nil, List.length_nil]
      omega
  | yesNo q yes no =>
      have hyes := length_allHandles_ofItems (first + 1) yes
      have hno := length_allHandles_ofItems (first + 1 + Item.sizes yes) no
      rw [ofItem, length_handles_filled, hyes, hno, Item.size, allHandles_nil, List.length_nil]
      omega
  | info | tip | spacer | line | box | check | radio | radioGroup | checkGroup | unknown => rfl

theorem length_allHandles_ofItems (first : Nat) (items : List Item) :
    (allHandles (ofItems first items)).length = Item.sizes items := by
  cases items with
  | nil => rfl
  | cons item items =>
      have hitem := length_handles_ofItem first item
      have hitems := length_allHandles_ofItems (first + item.size) items
      rw [ofItems, allHandles_cons, List.length_append, hitem, hitems, Item.sizes]

end

/-! ### What is read of a written item -/

theorem readSlot_eq (first : Nat) (slot : Slot) (ms : Entries Json) :
    readSlot first slot ms = ((ms.get? slot.name).map (readChildren first)).getD [] := by
  induction ms with
  | nil => rfl
  | cons m ms ih =>
      obtain ⟨name, v⟩ := m
      rw [readSlot, Entries.get?_cons]
      by_cases hname : name = slot.name
      · rw [if_pos hname, if_pos hname.symm]
        rfl
      · rw [if_neg hname, if_neg (Ne.symm hname), ih]

/-- What stands under a slot is read as the list that was written for it, or as nothing if it was
left out. -/
theorem readSlot_written {first : Nat} {slot : Slot} {ms : Entries Json} {items : List Item}
    (h : ms.get? slot.name = some (.arr (Item.allToJson items)) ∨
      items = [] ∧ ms.get? slot.name = none) :
    readSlot first slot ms = readAll first (Item.allToJson items) := by
  rw [readSlot_eq]
  rcases h with hfound | ⟨rfl, hnone⟩
  · rw [hfound]
    rfl
  · rw [hnone]
    rfl

theorem read_leaf {item : Item} (hleaf : item.IsLeaf) (hobject : item.toJson.isObject = true)
    (hgenuine : item.Genuine) (first : Nat) :
    read first item.toJson = leaf first item.ownAttributes := by
  have hslots := ofAttributes_leaf hleaf hobject hgenuine
  have hown : Slot.own item.ownAttributes = item.ownAttributes :=
    own_of_tidy (Slot.tidy_of_no_slots hslots)
  rw [toJson_leaf hleaf hobject, read_of_no_slots first hslots, hown]

mutual

/-- An item is read as its tree. -/
theorem read_item {item : Item} (hobject : item.Throughout (·.toJson.isObject = true))
    (hgenuine : item.Genuine) (first : Nat) : read first item.toJson = ofItem first item := by
  cases item with
  | block text cond items =>
      have hitems := readAll_items hobject.2 hgenuine (first + 1)
      have hslots : Slot.ofAttributes (Item.block text cond items).toJson.members = [.items] := rfl
      have hown : Slot.own (Item.block text cond items).toJson.members =
          (Item.block text cond items).ownAttributes := filter_block text cond items
      refine (read_of_block first hslots).trans ?_
      rw [hown, readSlot_written (Or.inl (get?_items_block text cond items)), hitems, ofItem]
  | yesNo q yes no =>
      have hyes := readAll_items hobject.2.1 hgenuine.1 (first + 1)
      have hno := readAll_items hobject.2.2 hgenuine.2 (first + 1 + Item.sizes yes)
      have hslots : Slot.ofAttributes (Item.yesNo q yes no).toJson.members = [.yes, .no] := rfl
      have hown : Slot.own (Item.yesNo q yes no).toJson.members =
          (Item.yesNo q yes no).ownAttributes := filter_yesNo q yes no
      refine (read_of_yesNo first hslots).trans ?_
      rw [hown, readSlot_written (get?_yes_yesNo q yes no), hyes, length_allHandles_ofItems,
        readSlot_written (get?_no_yesNo q yes no), hno, ofItem]
  | info | tip | spacer | line | box | check | radio | radioGroup | checkGroup | unknown =>
      refine read_leaf ?_ hobject hgenuine first
      trivial

theorem readAll_items {items : List Item}
    (hobject : Item.AllThroughout (·.toJson.isObject = true) items)
    (hgenuine : Item.AllGenuine items) (first : Nat) :
    readAll first (Item.allToJson items) = ofItems first items := by
  cases items with
  | nil => rfl
  | cons item items =>
      have hitem := read_item hobject.1 hgenuine.1 first
      have hitems := readAll_items hobject.2 hgenuine.2 (first + item.size)
      rw [Item.allToJson, readAll, if_pos hobject.1.here]
      simp only [hitem, length_handles_ofItem, hitems, ofItems]

end

/-! ### Taking a node out -/

theorem tidy_block (text : String) (cond : Json) (items : List Item) :
    Slot.Tidy (Item.block text cond items).ownAttributes := by
  rw [← filter_block text cond items]
  exact Slot.tidy_own (Item.block text cond items).toJson.members

theorem tidy_yesNo (q : Question) (yes no : List Item) :
    Slot.Tidy (Item.yesNo q yes no).ownAttributes := by
  rw [← filter_yesNo q yes no]
  exact Slot.tidy_own (Item.yesNo q yes no).toJson.members

/-- A block is written as its attributes with what it holds after them. -/
theorem toJson_node_block {inside : Slot → List Tree} {items more : List Item} (first : Nat)
    (text : String) (cond : Json) (h : allToJson (inside .items) = Item.allToJson more) :
    toJson (.node first (Item.block text cond items).ownAttributes inside) =
      (Item.block text cond more).toJson := by
  have hslots : Slot.ofAttributes (Item.block text cond items).ownAttributes = [.items] := rfl
  rw [toJson_of_tidy (tidy_block text cond items), hslots]
  simp [slotEntries, Slot.name, h, Item.ownAttributes, Item.toJson, Item.typed]

theorem isEmpty_written {ts : List Tree} {items : List Item}
    (h : allToJson ts = Item.allToJson items) : ts.isEmpty = items.isEmpty := by
  cases ts <;> cases items <;> first | rfl | cases h

/-- A yes/no question is written as its attributes with what it holds after them, save what it
does not hold. -/
theorem toJson_node_yesNo {inside : Slot → List Tree} {yes no yes' no' : List Item} (first : Nat)
    (q : Question) (hyes : allToJson (inside .yes) = Item.allToJson yes')
    (hno : allToJson (inside .no) = Item.allToJson no') :
    toJson (.node first (Item.yesNo q yes no).ownAttributes inside) =
      (Item.yesNo q yes' no').toJson := by
  have hslots : Slot.ofAttributes (Item.yesNo q yes no).ownAttributes = [.yes, .no] := rfl
  have hentries : slotEntries [.yes, .no] inside =
      (if yes'.isEmpty then [] else [("yes", .arr (Item.allToJson yes'))]) ++
        (if no'.isEmpty then [] else [("no", .arr (Item.allToJson no'))]) := by
    rw [slotEntries, List.filterMap_cons, List.filterMap_cons, List.filterMap_nil,
      isEmpty_written hyes, isEmpty_written hno, hyes, hno]
    cases yes'.isEmpty <;> cases no'.isEmpty <;> rfl
  rw [toJson_of_tidy (tidy_yesNo q yes no), hslots, hentries]
  simp [Item.ownAttributes, Item.toJson, Item.typed]

theorem toJson_delete_leaf {item : Item} (hleaf : item.IsLeaf)
    (hobject : item.toJson.isObject = true) (hgenuine : item.Genuine) (k first : Nat) :
    ((ofItem first item).delete k).toJson = (item.without k first).toJson := by
  have hslots := ofAttributes_leaf hleaf hobject hgenuine
  have hsame : item.without k first = item := by
    cases item with
    | block | yesNo => exact hleaf.elim
    | info | tip | spacer | line | box | check | radio | radioGroup | checkGroup | unknown => rfl
  rw [ofItem_leaf hleaf, leaf, delete, toJson, hslots, hsame, toJson_leaf hleaf hobject]
  rfl

mutual

/-- The tree of an item less a node is written as the item less what stands there. -/
theorem toJson_delete {item : Item} (hobject : item.Throughout (·.toJson.isObject = true))
    (hgenuine : item.Genuine) (k first : Nat) :
    ((ofItem first item).delete k).toJson = (item.without k first).toJson := by
  cases item with
  | block text cond items =>
      exact toJson_node_block first text cond
        (allToJson_deleteAll hobject.2 hgenuine k (first + 1))
  | yesNo q yes no =>
      exact toJson_node_yesNo first q (allToJson_deleteAll hobject.2.1 hgenuine.1 k (first + 1))
        (allToJson_deleteAll hobject.2.2 hgenuine.2 k (first + 1 + Item.sizes yes))
  | info | tip | spacer | line | box | check | radio | radioGroup | checkGroup | unknown =>
      refine toJson_delete_leaf ?_ hobject hgenuine k first
      trivial

theorem allToJson_deleteAll {items : List Item}
    (hobject : Item.AllThroughout (·.toJson.isObject = true) items)
    (hgenuine : Item.AllGenuine items) (k first : Nat) :
    allToJson (deleteAll k (ofItems first items)) =
      Item.allToJson (Item.allWithout k first items) := by
  cases items with
  | nil => rfl
  | cons item items =>
      have hitem := toJson_delete hobject.1 hgenuine.1 k first
      have hitems := allToJson_deleteAll hobject.2 hgenuine.2 k (first + item.size)
      rw [ofItems, deleteAll, handle_ofItem, Item.allWithout]
      split
      · exact hitems
      · rw [allToJson, hitem, hitems, Item.allToJson]

end

end Tree

open Questionnaire.Editor.Tree

/-! ### A document in an editor -/

variable {e : Editor} {d : Document} {k : Nat}

/-- A document without findings stands in an editor, and nothing else does. -/
structure Drafted (e : Editor) (d : Document) : Prop where
  holds : Holds e d
  depicts : Depicts e ⟨ofItems 0 d.items, []⟩
  written : e.toJson = d.toJson
  version : e.version = .int d.version
  orderly : AllOrderly (e.live.map Live.attributes)

theorem depicts_opened (h : ofDocument d = .ok e) :
    Depicts e ⟨readAll 0 (Item.allToJson d.items), []⟩ := by
  have hadded := leads_insertAll (Or.inl rfl) 0 (Item.allToJson d.items) (start d)
    ⟨depicts_empty (.int d.version), rfl⟩
  rw [ofDocument_eq] at h
  split at h
  · next hrun =>
      obtain rfl := Except.ok.inj h
      rw [hrun] at hadded
      exact hadded.of_ok.1
  · cases h

/-- A document without findings stands in an editor once it is opened. -/
theorem drafted_of_load {source : Json} (h : Document.load source = .ok d)
    (hvalid : d.issues = .ok []) (husable : ∀ n ∈ d.outline, n.item.TypeUsable) :
    ∃ e, ofDocument d = .ok e ∧ Drafted e d := by
  have hgenuine := Document.genuine_of_load h
  have hobject := (Validation.sound_of_issues hvalid).isObject hgenuine
  obtain ⟨e, hopened, hholds⟩ := exists_holds h hobject husable
  obtain ⟨_, hopened', hversion, horderly⟩ := allOrderly_opened h hvalid husable
  obtain rfl := Except.ok.inj (hopened.symm.trans hopened')
  obtain ⟨_, hopened', hwritten⟩ := ofDocument_of_usable hobject hgenuine husable
  obtain rfl := Except.ok.inj (hopened.symm.trans hopened')
  have hdepicts := depicts_opened hopened
  rw [readAll_items hholds.objects' hgenuine] at hdepicts
  exact ⟨e, hopened, hholds, hdepicts, hwritten, hversion, horderly⟩

/-- What is there is removed where no tree is loose, with all that it holds. -/
theorem Depicts.run_remove {roots : List Tree} (h : Depicts e ⟨roots, []⟩)
    (hlive : (e.find? k).isSome = true) :
    ∃ e', (remove k).run e = (.ok (), e') ∧ Depicts e' ⟨deleteAll k roots, []⟩ := by
  obtain ⟨item, hitem⟩ := Option.isSome_iff_exists.mp hlive
  obtain rfl := handle_of_find? hitem
  have hled := ledTo_remove h item.handle
  have hrun := (h.whole rfl).removable item (List.mem_of_find?_eq_some hitem)
  refine ⟨_, Prod.ext hrun rfl, ?_⟩
  rw [← Prod.eta ((remove item.handle).run e), hrun] at hled
  obtain ⟨found, ts, hfound, hlist, hmem, hafter⟩ := hled.of_ok
  rw [require_of_find? hitem] at hfound
  obtain rfl := Except.ok.inj hfound
  rwa [Woods.edit_roots, Woods.editAt_without h.nodup rfl hlist hmem] at hafter

namespace Drafted

/-- An id that is not empty leads to the item that has it. -/
theorem handleOf_eq (h : Drafted e d) (hsound : Validation.Sound d) {n : Node}
    (hn : n ∈ d.outline) {x : String} (hx : x ≠ "") (hid : n.item.id = .str x) :
    e.handleOf (.str x) = .ok n.handle := by
  rw [h.holds.handleOf_eq hx, hsound.find?_eq hn hx hid]

/-- Whatever an id leads to is an item of the document. -/
theorem lt_of_handleOf (h : Drafted e d) {id : Json} (hfound : e.handleOf id = .ok k) :
    k < d.size := by
  unfold handleOf at hfound
  rw [h.holds.reading] at hfound
  dsimp only at hfound
  split at hfound
  · next hfind =>
      cases hfound
      obtain ⟨n, hn, rfl⟩ := List.mem_map.mp (List.mem_of_find?_eq_some hfind)
      exact Document.exists_node_iff.mp ⟨n, hn, rfl⟩
  · cases hfound

/-- **An editor removes any item of the document that stands in it,** and there is nothing to be
found in what remains: it is written as the document without the item. -/
theorem run_remove (h : Drafted e d) (hk : k < d.size) :
    ∃ e', (remove k).run e = (.ok (), e') ∧ e'.toJson = (d.without k).toJson ∧
      e'.issues = .ok [] := by
  obtain ⟨e', hrun, hafter⟩ := h.depicts.run_remove ((h.holds.find?_isSome_iff k).mpr hk)
  have hversion : e'.version = .int d.version := by
    have hlater := (Edit.remove k).later_after (Later.refl e)
    rw [Edit.after, Edit.attempt, hrun] at hlater
    exact hlater.version.trans h.version
  have horderly : AllOrderly (e'.live.map Live.attributes) := by
    have hkept := (steady_kept (e.live.map Live.attributes)).keeps_remove k e (.refl _)
    rw [hrun] at hkept
    exact h.orderly.sublist hkept
  refine ⟨e', hrun, ?_, issues_of_allOrderly hafter hversion horderly⟩
  rw [hafter.toJson_eq, hversion, allToJson_deleteAll h.holds.objects' h.holds.genuine]
  rfl

end Drafted

end Editor

end Questionnaire
