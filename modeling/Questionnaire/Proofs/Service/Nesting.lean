/-
Putting a new item into a stored template under another item.

The item to put it under is named by its id.  Where a template can be opened, what becomes of such a
call is told by the document: if the item that has the id holds anything under the slot, the new
item is put into that very list, at the position that is asked for, and the document is stored with
it; if the item does not have the slot, the call is refused; and if no item has the id, it is not
found.  In the last two cases, and where the position is none, nothing is stored.

An item is known by the id that it was read with.  A block is read without one, so that no id leads
to a block, whatever stands in the stored text.
-/
import Questionnaire.Proofs.Editor.Nesting
import Questionnaire.Proofs.Service.Authoring

namespace Questionnaire

namespace Service

open Editor (Drafted Slot Starting)

variable {s : Service} {id : Json} {row : Template} {d : Document} {e : Editor}

/-- A new item that is to be put under a slot of the item with an id.  It is of a type that items
start out with, needs no options and is given no attributes. -/
structure NewItem.Under (new : NewItem) (name x : String) (slot : Slot) : Prop where
  type : new.type = .str name
  known : (Editor.starter? name).isSome = true
  radio : name ≠ "radiogroup"
  check : name ≠ "checkgroup"
  parent : new.parent = .str x
  named : x ≠ ""
  slot : new.slot = .str slot.name
  attributes : new.attributes.orElse (.obj []) = .obj []

variable {new : NewItem} {name x : String} {slot : Slot} {start : Entries Json} {k : Nat}

/-- What an item is put under is looked for first. -/
theorem NewItem.Under.run_add_of_absent (h : new.Under name x slot) {failure : Failure}
    (hfound : e.handleOf (.str x) = .error failure) : (new.add.run e).1 = .error failure := by
  rw [NewItem.add, Attempt.run_bind, Attempt.run_get, Attempt.andThen_ok, h.parent]
  simp only [Attempt.run_bind, Attempt.run_lift, hfound, Attempt.andThen_error]

/-- The new item has what its type starts out with. -/
theorem NewItem.Under.run_add (h : new.Under name x slot) (hfound : e.handleOf (.str x) = .ok k)
    (hdefault : e.defaultItem (.str name) = .ok start) :
    new.add.run e =
      (Editor.add (.obj start) (some (k : Int)) (.str slot.name) new.position).run e := by
  have hstart : Entries.set (Entries.setAll start []) "type" (.str name) = start :=
    Editor.overridden_nil (Editor.starting_defaultItem hdefault).1
  rw [NewItem.add, Attempt.run_bind, Attempt.run_get, Attempt.andThen_ok, h.parent, h.type, h.slot,
    h.attributes]
  simp only [Attempt.run_bind, Attempt.run_pure, Attempt.andThen_ok, Attempt.run_lift, hfound,
    hdefault, hstart]

/-- What becomes of a new item that is to be put under a slot of the item with an id: `start` is
what its type starts out with. -/
structure Nested (s : Service) (id : Json) (row : Template) (d : Document) (new : NewItem)
    (x : String) (slot : Slot) (start : Entries Json) : Prop where
  /-- An item that has the slot takes the new item there, at the position that is asked for, and the
  document that is stored has no findings. -/
  held : ∀ n ∈ d.outline, n.item.id = .str x → ∀ held, n.item.under? slot = some held →
    ∀ k, new.position.offset held.length = .ok k → ∃ text after,
      let f := reworded text s.now
      (addItem id new).run s = (.ok (start, f row), s.lasting row.id f) ∧
        Document.load (.str text) = .ok after ∧ after.issues = .ok [] ∧
        d.Takes after n slot k (Editor.itemOf start)
  /-- Nothing is stored where the position is none in the list. -/
  misplaced : ∀ n ∈ d.outline, n.item.id = .str x → ∀ held, n.item.under? slot = some held →
    ∀ m, new.position.offset held.length = .error m →
      (addItem id new).run s = (.error (.misfit m), s)
  /-- An item that does not have the slot takes nothing. -/
  slotless : ∀ n ∈ d.outline, n.item.id = .str x → n.item.under? slot = none →
    (addItem id new).run s = (.error (.refused (.noSlot
      ((n.item.ownAttributes.get? "type").getD .null).words (Json.str slot.name).words)), s)
  /-- Nothing is stored where no item has the id. -/
  absent : (∀ n ∈ d.outline, n.item.id ≠ .str x) →
    (addItem id new).run s = (.error (.notFound "Item" (.str x)), s)

/-- What can be put under the items of a template whose document stands in an editor. -/
structure Nestable (s : Service) (id : Json) (row : Template) (d : Document) (e : Editor) :
    Prop where
  opened : (openTemplate id).run s = (.ok (row, e), s)
  /-- No id leads to a block, whatever stands in the stored text. -/
  blocks : ∀ n ∈ d.outline, ∀ text cond items, n.item = .block text cond items →
    ∀ x, e.handleOf (.str x) ≠ .ok n.handle
  nested : ∀ new name x slot, NewItem.Under new name x slot →
    ∃ start, e.defaultItem (.str name) = .ok start ∧ Nested s id row d new x slot start

section

variable (h : UnderWork s id row d) (hopened : Editor.ofDocument d = .ok e)
  (hdrafted : Drafted e d) (hnew : new.Under name x slot)

include h hopened hdrafted hnew

theorem UnderWork.run_addItem_of_absent (habsent : ∀ n ∈ d.outline, n.item.id ≠ .str x) :
    (addItem id new).run s = (.error (.notFound "Item" (.str x)), s) :=
  h.run_addItem_of_error hopened
    (hnew.run_add_of_absent (hdrafted.handleOf_of_absent hnew.named habsent))

/-- A new item that comes to stand under an item is stored there. -/
theorem UnderWork.run_addItem_under (hdefault : e.defaultItem (.str name) = .ok start)
    {n : Document.Node} (hn : n ∈ d.outline) (hid : n.item.id = .str x) {held : List Item}
    (hheld : n.item.under? slot = some held)
    (hposition : new.position.offset held.length = .ok k) : ∃ text after,
      let f := reworded text s.now
      (addItem id new).run s = (.ok (start, f row), s.lasting row.id f) ∧
        Document.load (.str text) = .ok after ∧ after.issues = .ok [] ∧
        d.Takes after n slot k (Editor.itemOf start) := by
  have hsound := Validation.sound_of_issues h.valid
  obtain ⟨hstarting, hbare⟩ := Editor.starting_defaultItem hdefault
  obtain ⟨e', hrun, hshown, hwritten, hitem⟩ := hdrafted.run_add_under hn hheld hstarting hbare
    hposition h.writable_parts.1 h.writable_parts.2
  have hadd := (hnew.run_add (hdrafted.handleOf_eq hsound hn hnew.named hid) hdefault).trans hrun
  have hissues := hdrafted.issues_add hnew.radio hnew.check hdefault hrun
  obtain ⟨text, after, hstoring⟩ := exists_storing hwritten hissues
  obtain rfl := Except.ok.inj (hshown.symm.trans hstoring.shown)
  refine ⟨text, _, ?_, hstoring.loaded, hstoring.clear, Document.takes_mapAt hn slot k _⟩
  rw [h.run_addItem hopened hadd hitem, hstoring.checked]

theorem UnderWork.nested (hdefault : e.defaultItem (.str name) = .ok start) :
    Nested s id row d new x slot start := by
  have hsound := Validation.sound_of_issues h.valid
  have hadd (n : Document.Node) (hn : n ∈ d.outline) (hid : n.item.id = .str x) :=
    hnew.run_add (hdrafted.handleOf_eq hsound hn hnew.named hid) hdefault
  refine ⟨fun n hn hid held hheld k hposition => ?_, fun n hn hid held hheld m hposition => ?_,
    fun n hn hid hnone => ?_, h.run_addItem_of_absent hopened hdrafted hnew⟩
  · exact h.run_addItem_under hopened hdrafted hnew hdefault hn hid hheld hposition
  · refine h.run_addItem_of_error hopened ?_
    rw [← hdrafted.length_children_under hn hheld] at hposition
    rw [hadd n hn hid]
    exact Editor.fst_add_of_misplaced (hdrafted.place_under hn hheld)
      (Editor.starting_defaultItem hdefault).1 hposition
  · refine h.run_addItem_of_error hopened ?_
    rw [hadd n hn hid]
    exact Editor.fst_add_of_no_place (hdrafted.place_under_of_none hn hnone) start

end

theorem UnderWork.nestable (h : UnderWork s id row d)
    (husable : ∀ n ∈ d.outline, n.item.TypeUsable) : ∃ e, Nestable s id row d e := by
  obtain ⟨e, hopened, hdrafted⟩ := Editor.drafted_of_load h.loaded h.valid husable
  refine ⟨e, ?_, fun n hn text cond items hblock => hdrafted.handleOf_ne_of_block hn hblock,
    fun new name x slot hnew => ?_⟩
  · rw [h.run_openTemplate, hopened]
    rfl
  · obtain ⟨start, hdefault⟩ := Editor.exists_defaultItem hdrafted.orderly hnew.known
    exact ⟨start, hdefault, h.nested hopened hdrafted hnew hdefault⟩

/-- A block with an id, and in it a question with an item under one of its answers. -/
def framed : Json :=
  .obj [("type", .str "block"), ("id", .str "b"), ("text", .str "B"), ("items", .arr
    [.obj [("type", .str "yesno"), ("id", .str "q"), ("text", .str "Q"), ("yes", .arr
      [.obj [("type", .str "info"), ("text", .str "I")]])]])]

theorem writable_framed : framed.Writable := by
  simp [framed, Json.writable_obj, Json.writable_arr, Json.writable_str]

/-- The question is read with its id, the block without. -/
def withFramed (yes : List Item) : Document :=
  ⟨1, [.block "B" .null [.yesNo ⟨"q", "Q", false, .null⟩ yes []]]⟩

def remark : Item := .info "I" .null

theorem usable_framed : ∀ n ∈ (withFramed [remark]).outline, n.item.TypeUsable := by
  rw [Document.outline, Document.forall_outlineItems]
  exact ⟨⟨⟨_, rfl⟩, ⟨⟨_, rfl⟩, ⟨⟨_, rfl⟩, trivial⟩, trivial⟩, trivial⟩, trivial⟩

/-- The template stands in the tables, and nobody was sent it. -/
theorem written_framed :
    let s := (blank ⟨0⟩ (fun _ => "k") 0 none).turns (writing [framed])
    s.tables.template? 1 = some (templateOf [framed]) ∧ s.tables.isSent 1 = false := by
  decide +kernel

theorem load_framed :
    Document.load (.str (templateOf [framed]).content) = .ok (withFramed [remark]) := by
  rw [load_templateOf (List.forall_mem_singleton.mpr writable_framed)]
  rfl

end Service

end Questionnaire
