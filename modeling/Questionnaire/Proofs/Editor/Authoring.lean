/-
Writing a questionnaire with starter items.

Whoever writes a questionnaire removes items, moves them and adds new ones that start out
with a text and a free id, `Authoring`.  A call may be refused, and one whose position is
none can leave an item behind that stands nowhere.  Nothing of that spoils a questionnaire
that had no findings: the attributes of all that the editor still keeps stay orderly, those
that stand nowhere included, and the check reads a part of them.

That is so because a step takes attributes away, leaves them as they are, or adds those of
one starter item, whose id is none of those that the editor reads; and these are the ids
that the check claims.
-/
import Questionnaire.Proofs.Editor.Checking
import Questionnaire.Proofs.Editor.Session

namespace Questionnaire.Editor

open Questionnaire.Editor.Tree
open Questionnaire.Attempt (Keeps)

variable {e : Editor}

/-! ### Starter items -/

/-- Attributes that can be added where some ids are in use. -/
structure Addition (used : List Json) (attributes : Entries Json) : Prop where
  orderly : Orderly attributes
  nodup : (itemOf attributes).written.Nodup
  new : ∀ id ∈ (itemOf attributes).written, .str id ∉ used
  /-- Nothing stands under the name of a slot. -/
  empty : ∀ slot : Slot, attributes.get? slot.name = none
  type : ∃ type, attributes.get? "type" = some (.str type)

/-- Attributes of an item that is asked for nothing but its id, which is free if it has
one. -/
theorem addition_of_account {used : List Json} {attributes : Entries Json} {type : String}
    (id : String) (htype : attributes.get? "type" = some (.str type)) (hplain : type ≠ "checkgroup")
    (hempty : ∀ slot : Slot, attributes.get? slot.name = none) (hid : HasId attributes id)
    (haccount : (itemOf attributes).account = (.str id, [], false, false, false))
    (hfree : id = "" ∨ Validation.isId id = true ∧ .str id ∉ used) : Addition used attributes := by
  obtain ⟨hitemId, hrest⟩ := Prod.mk.inj haccount
  obtain ⟨hchoices, hlacks⟩ := Prod.mk.inj hrest
  obtain ⟨hlacksId, hlacks⟩ := Prod.mk.inj hlacks
  obtain ⟨hlacksChoices, hlacksType⟩ := Prod.mk.inj hlacks
  have hwritten : (itemOf attributes).written = if id = "" then [] else [id] := by
    rw [Item.written, Item.idText, hitemId, hchoices]
    by_cases h : id = "" <;> simp [h, Json.truthy, Json.str?]
  have hsame : Json.sameAs (attributes.get? "type") (.str "checkgroup") = false := by
    simp [htype, Json.sameAs, Json.equal, hplain]
  have heach {P : String → Prop} (h : id ≠ "" → P id) : ∀ x ∈ (itemOf attributes).written, P x := by
    intro x hx
    rw [hwritten] at hx
    split at hx
    · cases hx
    · next hne => rw [List.mem_singleton.mp hx]; exact h hne
  refine ⟨⟨⟨fun _ => ⟨id, hitemId⟩, heach fun hne => ?_, hlacksId, hlacksChoices, hlacksType⟩, ?_⟩,
    ?_, heach fun hne => ?_, hempty, type, htype⟩
  · exact (hfree.resolve_left hne).1
  · rw [idsOf_of_hasId hid hsame, hwritten]
  · rw [hwritten]
    split <;> simp
  · exact (hfree.resolve_left hne).2

/-- What a new item with a free id starts with. -/
theorem eq_of_named {start attributes : Entries Json} {stem id : String}
    (hid : e.generateId stem = .ok id)
    (h : (do
      let id ← (e.generateId stem).mapError Failure.misfit
      return start ++ [("id", .str id)] : Except Failure (Entries Json)) = .ok attributes) :
    attributes = start ++ [("id", .str id)] := by
  rw [hid] at h
  cases h
  rfl

/-- **A starter item that needs no options can be added.** -/
theorem addition_of_defaultItem {used : List Json} (hused : e.usedIds = .ok used) {type : Json}
    (hradio : type ≠ .str "radiogroup") (hcheck : type ≠ .str "checkgroup")
    {attributes : Entries Json} (h : e.defaultItem type = .ok attributes) :
    Addition used attributes := by
  obtain ⟨n, hquestion, hfree⟩ := generateId_free hused "q"
  obtain ⟨m, htip, hfree'⟩ := generateId_free hused "tip"
  have hquestionId : Validation.isId (numbered "q" n) = true := isId_numbered (by decide) n
  have htipId : Validation.isId (numbered "tip" m) = true := isId_numbered (by decide) m
  have hgood := And.intro hquestionId hfree
  have hgood' := And.intro htipId hfree'
  have hne := numbered_ne_empty "q" n
  have hne' := numbered_ne_empty "tip" m
  cases type with
  | str name =>
      simp only [defaultItem, Json.str?, Option.bind_some] at h
      cases hstarter : starter? name with
      | none => rw [hstarter] at h; cases h
      | some start =>
          rw [hstarter] at h
          simp only [Option.map_some] at h
          unfold starter? at hstarter
          split at hstarter
          case h_1 | h_2 | h_4 =>
            cases hstarter
            cases h
            refine addition_of_account "" rfl (by decide) ?_ rfl rfl (.inl rfl)
            rintro (_ | _) <;> rfl
          case h_3 =>
            cases hstarter
            obtain rfl := eq_of_named htip h
            refine addition_of_account (numbered "tip" m) rfl (by decide) ?_ ?_ rfl (.inr hgood')
            · rintro (_ | _) <;> rfl
            · simp [HasId, Entries.get?_cons, hne']
          case h_8 =>
            cases hstarter
            obtain rfl := eq_of_named hquestion h
            refine addition_of_account (numbered "q" n) rfl (by decide) ?_ ?_ rfl (.inr hgood)
            · rintro (_ | _) <;> rfl
            · simp [HasId, Entries.get?_cons, hne]
          case h_5 | h_6 | h_7 | h_11 =>
            cases hstarter
            obtain rfl := eq_of_named hquestion h
            refine addition_of_account (numbered "q" n) rfl (by decide) ?_ ?_ ?_ (.inr hgood)
            · rintro (_ | _) <;> rfl
            · simp [HasId, Entries.get?_cons, hne]
            · exact congrArg (fun lacks => (Json.str (numbered "q" n), [], lacks, false, false))
                (decide_eq_false hne)
          case h_9 => exact absurd rfl hradio
          case h_10 => exact absurd rfl hcheck
          case h_12 => cases hstarter
  | null | bool | int | float | arr | obj => cases h

/-! ### What an edit keeps -/

/-- The editor keeps no attributes but some, each as often and in their order. -/
def Kept (bound : List (Entries Json)) (e : Editor) : Prop :=
  (e.live.map Live.attributes).Sublist bound

variable {bound : List (Entries Json)}

theorem steady_kept (bound : List (Entries Json)) : Steady (Kept bound) where
  putList he _ _ := he
  relocate {e} he handle place := by
    have hsame : (e.modifyLive handle fun item => { item with place }).live.map Live.attributes =
        e.live.map Live.attributes := by
      rw [modifyLive, List.map_map]
      refine List.map_congr_left fun item _ => ?_
      show (if item.handle = handle then { item with place } else item).attributes = _
      split <;> rfl
    rw [Kept, hsame]
    exact he
  drop he _ := (List.filter_sublist.map _).trans he
  touched he := he

/-- A slot that nothing is written for is made and stays empty. -/
theorem keeps_insertSlot_of_none {P : Editor → Prop} (hP : Steady P) {attributes : Entries Json}
    {slot : Slot} (h : attributes.get? slot.name = none) (handle : Nat) :
    Keeps P (insertSlot handle slot attributes) := by
  intro e he
  have hitems : attributes.get? slot.name = some (.arr (Item.allToJson [])) ∨
      ([] : List Item) = [] ∧ attributes.get? slot.name = none := .inr ⟨rfl, h⟩
  rw [run_insertSlot hitems]
  exact hP.putList he _ _

theorem exists_ofType (type : String) : ∃ slots, Slot.ofType (.str type) = .ok slots := by
  unfold Slot.ofType
  split
  case h_1 | h_2 | h_5 => exact ⟨_, rfl⟩
  all_goals contradiction

/-- Tidy attributes are all the item's own. -/
theorem own_of_tidy {attributes : Entries Json} (h : Slot.Tidy attributes) :
    Slot.own attributes = attributes := by
  refine List.filter_eq_self.mpr fun m hm => ?_
  rw [Bool.not_eq_true', List.any_eq_false]
  intro slot hslot hname
  have hnone := List.lookup_eq_none_iff.mp (h slot hslot) m hm
  rw [of_decide_eq_true hname, bne_self_eq_false] at hnone
  cases hnone

/-- Adding a starter item adds its attributes and no others, whether or not it comes to stand
somewhere. -/
theorem kept_add {used : List Json} {attributes : Entries Json} (h : Addition used attributes)
    (he : Kept bound e) (parent : Option Int) (slot : Json) (position : Position) :
    Kept (bound ++ [attributes]) ((add (.obj attributes) parent slot position).run e).2 := by
  have hsteady := steady_kept (bound ++ [attributes])
  have hmore {e : Editor} (he : Kept bound e) : Kept (bound ++ [attributes]) e :=
    he.trans (List.sublist_append_left _ _)
  obtain ⟨type, htype⟩ := h.type
  obtain ⟨slots, hslots⟩ := exists_ofType type
  rw [← Option.getD_some (a := Json.str type), ← htype] at hslots
  have hinsert (place : Place) :
      Kept (bound ++ [attributes]) ((insert place position (.obj attributes)).run e).2 := by
    rw [run_insert_typed hslots, own_of_tidy fun slot _ => h.empty slot, ← Attempt.run_bind]
    refine (hsteady.keeps_enlist place position e.next).bind (fun _ => keeps_insertSlots
      (fun slot => keeps_insertSlot_of_none hsteady (h.empty slot) e.next) slots) _ ?_
    rw [Kept, recorded, List.map_append]
    exact he.append (.refl _)
  rw [add]
  simp only [Json.isObject, Bool.not_true, Bool.false_eq_true, if_false, Attempt.run_bind,
    Attempt.run_get, Attempt.andThen_ok, Attempt.run_lift]
  cases e.place parent slot with
  | error failure => exact hmore he
  | ok place =>
      rw [Attempt.andThen_ok, Attempt.run_bind]
      have hafter := hinsert place
      cases hrun : (insert place position (.obj attributes)).run e with
      | mk outcome after =>
          rw [hrun] at hafter
          cases outcome with
          | ok k => exact hafter
          | error failure => exact hafter

/-! ### Authoring -/

/-- What an author does: takes an item out, moves one, or adds a new item of a type. -/
inductive Authoring
  | remove (handle : Int)
  | move (handle : Int) (parent : Option Int) (slot : Json) (position : Position)
  | add (type : Json) (parent : Option Int) (slot : Json) (position : Position)

namespace Authoring

def attempt : Authoring → Attempt Editor Unit
  | remove handle => Editor.remove handle
  | move handle parent slot position => Editor.move handle parent slot position
  | add type parent slot position => do
    let attributes ← Attempt.lift ((← get).defaultItem type)
    let _ ← Editor.add (.obj attributes) parent slot position

/-- The editor after a step, which may have been refused. -/
def after (step : Authoring) (e : Editor) : Editor := (step.attempt.run e).2

/-- The step adds no item that needs options. -/
def Plain : Authoring → Prop
  | add type _ _ _ => type ≠ .str "radiogroup" ∧ type ≠ .str "checkgroup"
  | remove _ | move .. => True

/-- The changes that a step comes to. -/
def edits (e : Editor) : Authoring → List Edit
  | remove handle => [.remove handle]
  | move handle parent slot position => [.move handle parent slot position]
  | add type parent slot position =>
    match e.defaultItem type with
    | .ok attributes => [.add (.obj attributes) parent slot position]
    | .error _ => []

theorem run_add (type : Json) (parent : Option Int) (slot : Json) (position : Position)
    (e : Editor) :
    (add type parent slot position).after e =
      match e.defaultItem type with
      | .ok attributes => ((Editor.add (.obj attributes) parent slot position).run e).2
      | .error _ => e := by
  rw [after, attempt]
  simp only [Attempt.run_bind, Attempt.run_get, Attempt.andThen_ok, Attempt.run_lift]
  cases e.defaultItem type with
  | ok attributes =>
      exact Attempt.forget_state (Editor.add (.obj attributes) parent slot position) e
  | error failure => rfl

theorem after_eq (step : Authoring) (e : Editor) :
    step.after e = Editor.after (step.edits e) e := by
  cases step with
  | remove | move => rfl
  | add type parent slot position =>
      rw [run_add, edits]
      cases e.defaultItem type with
      | ok attributes =>
          exact (Attempt.forget_state (Editor.add (.obj attributes) parent slot position) e).symm
      | error failure => rfl

/-- **A plain step leaves orderly attributes orderly.** -/
theorem allOrderly_after {step : Authoring} (hplain : step.Plain)
    (h : AllOrderly (e.live.map Live.attributes)) :
    AllOrderly ((step.after e).live.map Live.attributes) := by
  have hsteady := steady_kept (e.live.map Live.attributes)
  have hkept : Kept (e.live.map Live.attributes) e := .refl _
  cases step with
  | remove handle => exact h.sublist (hsteady.keeps_remove handle e hkept)
  | move handle parent slot position =>
      exact h.sublist (hsteady.keeps_move handle parent slot position e hkept)
  | add type parent slot position =>
      have hreads : ∀ item ∈ e.live, idsOf item.attributes =
          .ok ((itemOf item.attributes).written.map Json.str) :=
        fun item hitem => (h.each _ (List.mem_map_of_mem hitem)).ids
      obtain ⟨used, hused, hall⟩ := usedIds_of_forall fun item hitem => ⟨_, hreads item hitem⟩
      rw [run_add]
      cases hdefault : e.defaultItem type with
      | error failure => exact h
      | ok attributes =>
          have haddition := addition_of_defaultItem hused hplain.1 hplain.2 hdefault
          refine (h.concat haddition.orderly haddition.nodup ?_).sublist
            (kept_add haddition hkept parent slot position)
          refine List.forall_mem_map.mpr fun item hitem id hid hmem => ?_
          exact haddition.new id hmem
            (hall item hitem _ (hreads item hitem) id (List.mem_map_of_mem hid))

end Authoring

/-- The editor after an author's steps. -/
def authored (steps : List Authoring) (e : Editor) : Editor :=
  steps.foldl (fun e step => step.after e) e

theorem allOrderly_authored {steps : List Authoring} (hplain : ∀ step ∈ steps, step.Plain)
    (h : AllOrderly (e.live.map Live.attributes)) :
    AllOrderly ((authored steps e).live.map Live.attributes) := by
  induction steps generalizing e with
  | nil => exact h
  | cons step steps ih =>
      obtain ⟨hstep, hsteps⟩ := List.forall_mem_cons.mp hplain
      exact ih hsteps (Authoring.allOrderly_after hstep h)

/-- Authoring is editing. -/
theorem authored_eq (steps : List Authoring) (e : Editor) :
    ∃ edits, authored steps e = Editor.after edits e := by
  induction steps generalizing e with
  | nil => exact ⟨[], rfl⟩
  | cons step steps ih =>
      obtain ⟨edits, hedits⟩ := ih (step.after e)
      refine ⟨step.edits e ++ edits, ?_⟩
      rw [Editor.after, List.foldl_append]
      show authored steps (step.after e) = Editor.after edits (Editor.after (step.edits e) e)
      rw [hedits, step.after_eq]

/-- **Authoring with starter items leaves a questionnaire without findings.**  A document
that has none is opened, and after whatever was removed, moved and added in whatever way,
there still are none, and every id that is made up then is one that nothing that is kept has,
whether it stands somewhere or not. -/
theorem issues_authored {source : Json} {d : Document} (h : Document.load source = .ok d)
    (hvalid : d.issues = .ok []) (husable : ∀ n ∈ d.outline, n.item.TypeUsable) :
    ∃ opened, ofDocument d = .ok opened ∧ ∀ steps : List Authoring,
      (∀ step ∈ steps, step.Plain) →
        (authored steps opened).issues = .ok [] ∧
        ∀ stem, ∃ id, (authored steps opened).generateId stem = .ok id ∧
          ∀ item ∈ (authored steps opened).live, id ∉ (itemOf item.attributes).written := by
  obtain ⟨opened, hopened, hversion, horderly⟩ := allOrderly_opened h hvalid husable
  refine ⟨opened, hopened, fun steps hplain => ?_⟩
  have hafter := allOrderly_authored hplain horderly
  obtain ⟨edits, hedits⟩ := authored_eq steps opened
  obtain ⟨w, hw, -⟩ := (Opened.document hopened).depicts_after edits
  have hlater := (later_after edits (Later.refl opened)).version
  rw [← hedits] at hw hlater
  refine ⟨issues_of_allOrderly hw (hlater.trans hversion) hafter, fun stem => ?_⟩
  have hreads : ∀ item ∈ (authored steps opened).live, idsOf item.attributes =
      .ok ((itemOf item.attributes).written.map Json.str) :=
    fun item hitem => (hafter.each _ (List.mem_map_of_mem hitem)).ids
  obtain ⟨used, hused, hall⟩ := usedIds_of_forall fun item hitem => ⟨_, hreads item hitem⟩
  obtain ⟨n, hgenerate, hfree⟩ := generateId_free hused stem
  refine ⟨_, hgenerate, fun item hitem hmem => hfree ?_⟩
  exact hall item hitem _ (hreads item hitem) _ (List.mem_map_of_mem hmem)

/-- A question with a group under it, one of whose options has an id as they are made up. -/
def grouped : Entries Json :=
  [("items", .arr [.obj [("type", .str "yesno"), ("id", .str "q_2"), ("yes", .arr [
    .obj [("type", .str "checkgroup"), ("id", .str "tip_1"),
      ("choices", .arr [.obj [("q_1", .str "One")]])]])]])]

def withGroup : Document :=
  ⟨1, [.yesNo ⟨"q_2", "", false, .null⟩
    [.checkGroup ⟨"tip_1", "", false, .null⟩ ⟨[⟨"q_1", "One"⟩], none⟩] []]⟩

/-- A question is added and one that stands nowhere, the group is moved into a new block, a hint
is added, the first question is removed, and moving the group into itself is refused. -/
def rearranged : List Authoring :=
  [.add (.str "line") (some 0) (.str "no") .last,
    .add (.str "box") none (.str "items") (.at (2 ^ 63)),
    .add (.str "block") none (.str "items") (.at (-5)),
    .move 1 (some 4) (.str "items") (.at 0),
    .add (.str "tip") (some 4) (.str "items") .last,
    .remove 0,
    .move 4 (some 4) (.str "items") .last]

theorem issues_authored_rearranged :
    Document.load (.obj grouped) = .ok withGroup ∧ withGroup.issues = .ok [] ∧
      (∀ n ∈ withGroup.outline, n.item.TypeUsable) ∧
      ∃ opened, ofDocument withGroup = .ok opened ∧
        (authored rearranged opened).issues = .ok [] ∧
        ∀ stem, ∃ id, (authored rearranged opened).generateId stem = .ok id ∧
          ∀ item ∈ (authored rearranged opened).live, id ∉ (itemOf item.attributes).written := by
  have hload : Document.load (.obj grouped) = .ok withGroup := rfl
  have hvalid : withGroup.issues = .ok [] := by decide +kernel
  have husable : ∀ n ∈ withGroup.outline, n.item.TypeUsable := by
    rw [Document.outline, Document.forall_outlineItems]
    exact ⟨⟨⟨_, rfl⟩, ⟨⟨_, rfl⟩, trivial⟩, trivial⟩, trivial⟩
  obtain ⟨opened, hopened, hafter⟩ := issues_authored hload hvalid husable
  refine ⟨hload, hvalid, husable, opened, hopened, hafter rearranged ?_⟩
  simp [rearranged, Authoring.Plain]

end Questionnaire.Editor
