/-
Working on a stored template.

A template that nobody was sent is opened in an editor, something is taken out of it or put into
it, and what the editor shows is checked and stored.  Its document was checked when it was stored,
so that the only thing in the way is an item of a type that cannot be looked up: such a type is a
list or an object, and it passes the check because it counts as given.  A document that has none
stands in the editor item by item, whatever is in it can be taken out, and a new item is taken or
refused with all findings, `Authored`.  One that has such an item is not opened at all, neither to
take something out nor to put something in, `UnderWork.closed`.
-/
import Questionnaire.Proofs.Editor.Placing
import Questionnaire.Proofs.Service.Content
import Questionnaire.Proofs.Service.WellFormed

namespace Questionnaire

namespace Service

open Editor (Drafted Slot Insertable Bare Starting overridden)
open Validation (Sound)

variable {s : Service} {id : Json} {row : Template} {d : Document} {e : Editor}

/-- A template with new content. -/
def reworded (text : String) (now : Moment) (row : Template) : Template :=
  { row with content := text, updatedAt := now }

/-- A template that is found by an id and that nobody was sent, and its document, which has no
findings. -/
structure UnderWork (s : Service) (id : Json) (row : Template) (d : Document) : Prop where
  source : s.tables.template? row.id = some row
  named : Database.Names id row.id
  unsent : s.tables.isSent row.id = false
  loaded : Document.load (.str row.content) = .ok d
  valid : d.issues = .ok []

/-! ### Opening and storing -/

theorem UnderWork.run_openTemplate (h : UnderWork s id row d) :
    (openTemplate id).run s = ((Editor.ofDocument d).map (row, ·), s) := by
  rw [openTemplate, Attempt.run_bind, run_unsentTemplate h.named h.source h.unsent,
    Attempt.andThen_ok, Attempt.run_bind, Attempt.run_lift, h.loaded, Attempt.andThen_ok,
    Attempt.run_bind, Attempt.run_lift]
  cases Editor.ofDocument d <;> rfl

/-- What an editor shows is stored if the check takes it, and nothing is done if it does not. -/
theorem UnderWork.run_saveTemplate (h : UnderWork s id row d) (e : Editor) :
    (saveTemplate row.id e).run s =
      match Content.check e.toJson with
      | .ok checked => (.ok (reworded checked.1 s.now row),
          s.lasting row.id (reworded checked.1 s.now))
      | .error failure => (.error failure, s) := by
  rw [saveTemplate, Attempt.run_bind, Attempt.run_lift]
  cases Content.check e.toJson with
  | error failure => rfl
  | ok checked =>
      rw [Attempt.andThen_ok, Attempt.run_bind, run_time, Attempt.andThen_ok, Attempt.run_bind,
        run_setTemplate, Attempt.andThen_ok]
      exact run_commit_findTemplate (f := reworded checked.1 s.now) (fun _ => rfl) h.named.fits
        h.source

theorem issues_of_check (h : d.check = .ok []) : d.issues = .ok [] := by
  cases hissues : d.issues with
  | error m =>
      rw [Document.check, hissues] at h
      cases h
  | ok issues =>
      rw [Document.check, hissues] at h
      exact congrArg Except.ok (Except.ok.inj h)

/-- The text of what an editor shows is read as what it shows. -/
theorem exists_text_of_shown (hwritten : e.toJson.Writable) (hshown : e.toDocument = .ok d) :
    ∃ text, Content.text e.toJson = .ok text ∧ Document.load (.str text) = .ok d := by
  obtain ⟨ms, hms⟩ : ∃ ms, e.toJson = .obj ms := ⟨_, rfl⟩
  rw [Editor.toDocument, hms] at hshown
  rw [hms] at hwritten ⊢
  exact Content.exists_text_of_read ((Content.read_of_writable hwritten).trans hshown)

/-- An editor in which there is nothing to be found shows a document without findings. -/
theorem exists_shown_of_issues (h : e.issues = .ok []) :
    ∃ d, e.toDocument = .ok d ∧ d.issues = .ok [] := by
  cases hshown : e.toDocument with
  | error failure =>
      rw [Editor.issues, hshown] at h
      cases h
  | ok d =>
      rw [Editor.issues, hshown] at h
      exact ⟨d, rfl, issues_of_check h⟩

/-- What is stored of an editor: the text of what it shows, which is read as a document without
findings and passes the check. -/
structure Storing (e : Editor) (text : String) (d : Document) : Prop where
  shown : e.toDocument = .ok d
  clear : d.issues = .ok []
  written : Content.text e.toJson = .ok text
  loaded : Document.load (.str text) = .ok d
  checked : Content.check e.toJson = .ok (text, d)

/-- An editor in which there is nothing to be found can be stored. -/
theorem exists_storing (hwritten : e.toJson.Writable) (hissues : e.issues = .ok []) :
    ∃ text d, Storing e text d := by
  obtain ⟨d, hshown, hclear⟩ := exists_shown_of_issues hissues
  obtain ⟨text, htext, hload⟩ := exists_text_of_shown hwritten hshown
  refine ⟨text, d, hshown, hclear, htext, hload, ?_⟩
  rw [Content.check_of_read htext hload, Document.check, hclear]
  rfl

/-- What a stored document keeps can be written. -/
theorem UnderWork.writable_parts (h : UnderWork s id row d) :
    (Json.int d.version).Writable ∧ Item.AllWritable d.items := by
  obtain ⟨ms, hd, hms⟩ := Document.ofObject_of_load_source h.loaded
  exact Document.writable_parts (hms (Json.writable_str row.content)) hd

/-! ### Taking an item out -/

/-- The text of a document is what is stored of it. -/
theorem text_toJson (d : Document) : Content.text d.toJson = .ok (d.write none) := rfl

/-- Whatever a value leads to is taken out, and what remains is stored. -/
theorem UnderWork.run_removeItem (h : UnderWork s id row d) (hopened : Editor.ofDocument d = .ok e)
    (hdrafted : Drafted e d) {item : Json} {k : Nat} (hfound : e.handleOf item = .ok k) :
    let f := reworded ((d.without k).write none) s.now
    (removeItem id item).run s = (.ok (f row), s.lasting row.id f) := by
  intro f
  obtain ⟨e', hrun, hwritten, hissues⟩ := hdrafted.run_remove (hdrafted.lt_of_handleOf hfound)
  have hwritable := Document.writable_without h.loaded (Json.writable_str row.content) k
  rw [← hwritten] at hwritable
  obtain ⟨text, after, hstoring⟩ := exists_storing hwritable hissues
  have htext := hstoring.written
  rw [hwritten, text_toJson] at htext
  obtain rfl := Except.ok.inj htext
  rw [removeItem, Attempt.run_bind, h.run_openTemplate, hopened, Except.map, Attempt.andThen_ok]
  simp only [Attempt.run_bind, Attempt.run_lift, hfound, Attempt.andThen_ok, hrun]
  rw [h.run_saveTemplate, hstoring.checked]

/-! ### Putting an item in -/

/-- A new item of a type that items start out with, which is to be put at the top of a document
behind so many items. -/
structure NewItem.AtTop (new : NewItem) (d : Document) (name : String) (members : Entries Json)
    (n : Nat) : Prop where
  type : new.type = .str name
  known : (Editor.starter? name).isSome = true
  parent : new.parent = .null
  slot : new.slot = .str "items"
  attributes : new.attributes.orElse (.obj []) = .obj members
  writable : ∀ m ∈ members, m.2.Writable
  position : new.position.offset d.items.length = .ok n

variable {new : NewItem} {name : String} {start members : Entries Json} {n : Nat}

theorem NewItem.AtTop.run_add (h : new.AtTop d name members n)
    (hdefault : e.defaultItem (.str name) = .ok start) :
    new.add.run e = (Editor.add (.obj (overridden name start members)) none (.str "items")
      new.position).run e := by
  rw [NewItem.add, Attempt.run_bind, Attempt.run_get, Attempt.andThen_ok, h.parent, h.type, h.slot,
    h.attributes]
  simp only [Attempt.run_bind, Attempt.run_pure, Attempt.andThen_ok, Attempt.run_lift, hdefault]
  rfl

theorem UnderWork.run_addItem (h : UnderWork s id row d) (hopened : Editor.ofDocument d = .ok e)
    {k : Nat} {e' : Editor} (hadd : new.add.run e = (.ok k, e')) {attributes : Entries Json}
    (hitem : e'.item k = .ok attributes) :
    (addItem id new).run s =
      match Content.check e'.toJson with
      | .ok checked => (.ok (attributes, reworded checked.1 s.now row),
          s.lasting row.id (reworded checked.1 s.now))
      | .error failure => (.error failure, s) := by
  rw [addItem, Attempt.run_bind, h.run_openTemplate, hopened, Except.map, Attempt.andThen_ok]
  simp only [hadd, Attempt.run_bind, Attempt.run_lift, Attempt.andThen_ok, h.run_saveTemplate]
  cases Content.check e'.toJson with
  | error failure => rfl
  | ok checked =>
      rw [Attempt.andThen_ok, hitem]
      rfl

theorem UnderWork.run_addItem_of_error (h : UnderWork s id row d)
    (hopened : Editor.ofDocument d = .ok e) {failure : Failure}
    (hadd : (new.add.run e).1 = .error failure) :
    (addItem id new).run s = (.error failure, s) := by
  rw [addItem, Attempt.run_bind, h.run_openTemplate, hopened, Except.map, Attempt.andThen_ok]
  simp only [hadd, Attempt.run_bind, Attempt.run_lift, Attempt.andThen_error]

/-- What becomes of a new item that is to be put at the top, by what it is made of. -/
structure Added (s : Service) (id : Json) (row : Template) (d : Document) (new : NewItem)
    (name : String) (members : Entries Json) (n : Nat) (made : Entries Json) : Prop where
  /-- It can be put in if it is given nothing to hold. -/
  bare : Bare members → Insertable (.obj made)
  /-- If it cannot be put in, nothing is done. -/
  unfit : ¬Insertable (.obj made) → (addItem id new).run s = (.error (.misfit .kind), s)
  /-- If it can, the check of the document with the item in it decides.  The check comes to an end
  if the item is given nothing to hold, and finds nothing if the item needs no options and is
  given nothing. -/
  fit : Insertable (.obj made) → ∃ item text,
    let after := d.settled.withItem n item
    let f := reworded text s.now
    Document.load (.str text) = .ok after ∧
      (Bare members → ¬after.Misnames) ∧
      (members = [] → name ≠ "radiogroup" → name ≠ "checkgroup" → Sound after) ∧
      Decided after ((Slot.own made, f row), s.lasting row.id f) s ((addItem id new).run s)

/-- What becomes of a new item that is to be put at the top. -/
theorem UnderWork.added (h : UnderWork s id row d) (hopened : Editor.ofDocument d = .ok e)
    (hdrafted : Drafted e d) (hnew : new.AtTop d name members n)
    (hdefault : e.defaultItem (.str name) = .ok start) :
    Added s id row d new name members n (overridden name start members) := by
  obtain ⟨hstarting, hbare⟩ := Editor.starting_defaultItem hdefault
  have hmade := Editor.starting_overridden hstarting hnew.writable
  have hnothing (hmembers : Bare members) := Editor.bare_overridden hbare hmembers name
  refine ⟨fun hmembers => (hnothing hmembers).insertable hmade, fun hunfit => ?_, fun hfit => ?_⟩
  · refine h.run_addItem_of_error hopened ?_
    rw [hnew.run_add hdefault]
    exact hdrafted.fst_add_of_unfit hunfit hnew.position
  · obtain ⟨e', hrun, hplaced⟩ :=
      hdrafted.run_add hfit hmade.writable hnew.position h.writable_parts.1 h.writable_parts.2
    obtain ⟨text, htext, hload⟩ := exists_text_of_shown hplaced.written hplaced.shown
    have hadd := (hnew.run_add hdefault).trans hrun
    refine ⟨_, text, hload, fun hmembers => ?_, fun hmembers hradio hcheck => ?_, ?_⟩
    · exact Document.checkable_iff.mp
        (hdrafted.checkable_withItem hmade (hnothing hmembers) hnew.position _)
    · rw [hmembers, Editor.overridden_nil hstarting] at hrun
      have hissues := hdrafted.issues_add hradio hcheck hdefault hrun
      obtain ⟨_, hshown, hclear⟩ := exists_shown_of_issues hissues
      obtain rfl := Except.ok.inj (hplaced.shown.symm.trans hshown)
      exact Validation.sound_of_issues hclear
    · refine decided_of_check htext hload (fun hcheck => ?_) fun failure hcheck => ?_
      · rw [h.run_addItem hopened hadd hplaced.item, hcheck]
      · rw [h.run_addItem hopened hadd hplaced.item, hcheck]

/-! ### What can be done with a template -/

/-- What can be done with a template whose document stands in an editor. -/
structure Authored (s : Service) (id : Json) (row : Template) (d : Document) (e : Editor) :
    Prop where
  opened : (openTemplate id).run s = (.ok (row, e), s)
  /-- There is one item in the editor for every item of the document, and nothing else. -/
  handles : ∀ k : Int, e.contains k = true ↔ 0 ≤ k ∧ k < d.size
  count : e.live.length = d.size
  items : ∀ n ∈ d.outline, e.attributes? n.handle = some n.item.ownAttributes
  /-- An id that an item has leads to the item. -/
  found : ∀ n ∈ d.outline, ∀ x, x ≠ "" → n.item.id = .str x → e.handleOf (.str x) = .ok n.handle
  /-- What is found is taken out, and the document without it is stored as it is written: all but
  the item and what it holds, each with what it has of its own. -/
  removed : ∀ item k, e.handleOf item = .ok k →
    let f := reworded ((d.without k).write none) s.now
    (removeItem id item).run s = (.ok (f row), s.lasting row.id f) ∧
      (d.without k).outline.map (·.item.ownAttributes) =
        (d.outline.filter fun n => k ∉ n.handle :: n.above).map (·.item.ownAttributes)
  /-- A new item of a type that items start out with is taken or refused. -/
  added : ∀ new name members n, NewItem.AtTop new d name members n →
    ∃ start, e.defaultItem (.str name) = .ok start ∧
      Added s id row d new name members n (overridden name start members)

/-- Nothing can be done with a template that cannot be opened. -/
structure Closed (s : Service) (id : Json) : Prop where
  opened : (openTemplate id).run s = (.error (.misfit .kind), s)
  removed : ∀ item, (removeItem id item).run s = (.error (.misfit .kind), s)
  added : ∀ new, (addItem id new).run s = (.error (.misfit .kind), s)

namespace UnderWork

variable (h : UnderWork s id row d)

include h

theorem authored (husable : ∀ n ∈ d.outline, n.item.TypeUsable) : ∃ e, Authored s id row d e := by
  obtain ⟨e, hopened, hdrafted⟩ := Editor.drafted_of_load h.loaded h.valid husable
  have hsound := Validation.sound_of_issues h.valid
  refine ⟨e, ?_, hdrafted.holds.contains_iff, hdrafted.holds.live_length, ?_, ?_, ?_, ?_⟩
  · rw [h.run_openTemplate, hopened]
    rfl
  · exact fun n hn => hdrafted.holds.attributes? hn
  · exact fun n hn x hx hid => hdrafted.handleOf_eq hsound hn hx hid
  · exact fun item k hfound =>
      ⟨h.run_removeItem hopened hdrafted hfound, Document.own_without d k⟩
  · intro new name members n hnew
    obtain ⟨start, hdefault⟩ := Editor.exists_defaultItem hdrafted.orderly hnew.known
    exact ⟨start, hdefault, h.added hopened hdrafted hnew hdefault⟩

theorem closed (hunusable : ¬∀ n ∈ d.outline, n.item.TypeUsable) : Closed s id := by
  have hgenuine := Document.genuine_of_load h.loaded
  have hopened := Editor.ofDocument_of_not_usable
    ((Validation.sound_of_issues h.valid).isObject hgenuine) hgenuine hunusable
  have hrun : (openTemplate id).run s = (.error (.misfit .kind), s) := by
    rw [h.run_openTemplate, hopened]
    rfl
  refine ⟨hrun, fun item => ?_, fun new => ?_⟩
  · rw [removeItem, Attempt.run_bind, hrun, Attempt.andThen_error]
  · rw [addItem, Attempt.run_bind, hrun, Attempt.andThen_error]

end UnderWork

/-- A template of well-formed tables that nobody was sent can be worked on. -/
theorem exists_underWork (h : s.tables.WellFormed)
    (hsource : s.tables.template? row.id = some row) (hnamed : Database.Names id row.id)
    (hunsent : s.tables.isSent row.id = false) : ∃ d, UnderWork s id row d := by
  obtain ⟨d, hloaded, hcheck⟩ := h.storable row (List.mem_of_find?_eq_some hsource)
  exact ⟨d, hsource, hnamed, hunsent, hloaded, issues_of_check hcheck⟩

/-- The turns in which an author writes a questionnaire of some items. -/
def writing (items : List Json) : List Turn :=
  [.event (.call (.createAdmin (.str "a"))),
    .event (.call (.createTemplate (.str "t") (.obj [("items", .arr items)]) (.int 1) (.str "d")))]

/-- The template that is there then. -/
def templateOf (items : List Json) : Template :=
  { authored with content := (Json.obj [("items", .arr items)]).render }

/-- The text of written items is read as they are. -/
theorem load_templateOf {items : List Json} (h : ∀ v ∈ items, v.Writable) :
    Document.load (.str (templateOf items).content) =
      Document.load (.obj [("items", .arr items)]) := by
  have hwritable : (Json.obj [("items", .arr items)]).Writable :=
    Json.writable_obj.mpr ⟨List.nodup_singleton _,
      List.forall_mem_singleton.mpr (Json.writable_arr.mpr h)⟩
  have hread := Content.read_of_writable hwritable
  simp only [Content.read, Content.text, bind, Except.bind] at hread
  exact hread

def asked : Json := .obj [("type", .str "line"), ("id", .str "q"), ("text", .str "Q")]

/-- An item whose type is a list. -/
def listed : Json := .obj [("type", .arr [.str "a"])]

theorem writable_asked : asked.Writable := by
  simp [asked, Json.writable_obj, Json.writable_str]

theorem writable_listed : listed.Writable := by
  simp [listed, Json.writable_obj, Json.writable_arr, Json.writable_str]

def withAsked : Document := ⟨1, [.line ⟨"q", "Q", false, .null⟩ none]⟩

end Service

end Questionnaire
