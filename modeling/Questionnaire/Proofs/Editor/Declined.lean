/-
What a declined change leaves.

A change is declined when it breaks a rule or names an item that is not there.  To add, to remove,
to move and to select look at everything first, so a declined one leaves the editor as it was,
`untouched`; the failures that come later are misfits.  To change attributes takes them one after
the other and stops at the first that is declined, `run_updateAll`: what came before it stays, and
the editor does not note that it was edited.  `declined_leaves` says that there is no other way,
and how much of the editor is the same in any case.
-/
import Questionnaire.Proofs.Editor.Session

namespace Questionnaire

/-- A failure that declines a request: it breaks a rule, or nothing has the key that it names. -/
inductive Failure.Declines : Failure → Prop
  | rule (broken : Refusal) : Declines (.refused broken)
  | missing (resource : String) (key : Json) : Declines (.notFound resource key)

namespace Attempt

variable {σ α β : Type} {a : Attempt σ α}

/-- The attempt never declines: a failure of it is of another kind. -/
def Accepts (a : Attempt σ α) : Prop :=
  ∀ s failure, (a.run s).1 = .error failure → ¬failure.Declines

theorem accepts_pure (x : α) : Accepts (pure x : Attempt σ α) := fun _ _ h => nomatch h

theorem accepts_modify (f : σ → σ) : Accepts (modify f : Attempt σ PUnit) := fun _ _ h => nomatch h

theorem accepts_set (now : σ) : Accepts (set now : Attempt σ PUnit) := fun _ _ h => nomatch h

theorem accepts_misfit (m : Misfit) : Accepts (throw (.misfit m) : Attempt σ α) := by
  intro s failure h hdeclines
  obtain rfl := Except.error.inj h
  cases hdeclines

theorem accepts_fit (r : Except Misfit α) : Accepts (fit r : Attempt σ α) := by
  cases r with
  | ok x => exact accepts_pure x
  | error m => exact accepts_misfit m

theorem Accepts.bind {next : α → Attempt σ β} (h : Accepts a) (hnext : ∀ x, Accepts (next x)) :
    Accepts (a >>= next) := by
  intro s failure hfailed
  rw [run_bind] at hfailed
  cases hrun : a.run s with
  | mk outcome after =>
      rw [hrun] at hfailed
      cases outcome with
      | ok x => exact hnext x after failure hfailed
      | error early =>
          obtain rfl := Except.error.inj hfailed
          exact h s early (congrArg Prod.fst hrun)

theorem accepts_get_bind {next : σ → Attempt σ β} (h : ∀ s, Accepts (next s)) :
    Accepts (get >>= next) :=
  Accepts.bind (fun _ _ h => nomatch h) h

/-- If the attempt declines, it has left the state as it was. -/
def Untouched (s : σ) (reached : Except Failure α × σ) : Prop :=
  ∀ failure, reached.1 = .error failure → failure.Declines → reached.2 = s

theorem untouched_error (s : σ) (failure : Failure) :
    Untouched s ((.error failure, s) : Except Failure α × σ) := fun _ _ _ => rfl

theorem Accepts.untouched (h : Accepts a) (before s : σ) : Untouched before (a.run s) :=
  fun failure hfailed hdeclines => absurd hdeclines (h s failure hfailed)

/-- What was worked out beforehand may be declined, what follows it has to leave the state. -/
theorem untouched_lift_bind {r : Except Failure α} {next : α → Attempt σ β} {s : σ}
    (h : ∀ x, Untouched s ((next x).run s)) : Untouched s ((lift r >>= next).run s) := by
  rw [run_bind, run_lift]
  cases r with
  | ok x => exact h x
  | error failure => exact untouched_error s failure

theorem Untouched.forget {s : σ} (h : Untouched s (a.run s)) :
    Untouched s ((do let _ ← a : Attempt σ Unit).run s) := by
  intro failure hfailed hdeclines
  rw [forget_state]
  refine h failure ?_ hdeclines
  rw [run_bind] at hfailed
  cases hrun : a.run s with
  | mk outcome after =>
      rw [hrun] at hfailed
      cases outcome with
      | ok x => cases hfailed
      | error early =>
          obtain rfl := Except.error.inj hfailed
          rfl

end Attempt

namespace Editor

open Attempt (Accepts Untouched LedTo)

variable {e e' e₀ : Editor} {w : Woods} {item : Live}

/-! ### Changes that look first -/

theorem accepts_enlist (place : Place) (position : Position) (handle : Nat) :
    Accepts (enlist place position handle) :=
  Attempt.accepts_get_bind fun _ => (Attempt.accepts_set _).bind fun _ =>
    (Attempt.accepts_fit _).bind fun _ => Attempt.accepts_modify _

theorem accepts_delist (place : Place) (handle : Nat) : Accepts (delist place handle) := by
  refine Attempt.accepts_get_bind fun e => ?_
  cases e.list? place with
  | none => exact Attempt.accepts_misfit _
  | some handles =>
      simp only
      split
      · exact Attempt.accepts_set _
      · exact Attempt.accepts_misfit _

theorem accepts_touch : Accepts touch := Attempt.accepts_modify _

mutual

theorem accepts_insert (place : Place) (position : Position) (v : Json) :
    Accepts (insert place position v) := by
  cases v with
  | obj ms =>
      refine Attempt.accepts_get_bind fun e => (Attempt.accepts_modify _).bind fun _ =>
        (Attempt.accepts_fit _).bind fun slots => (Attempt.accepts_modify _).bind fun _ =>
          (accepts_enlist _ _ _).bind fun _ => ?_
      -- Each slot is filled just if the type has it, and the next one after it.
      have hslot : ∀ slot (next : PUnit → Attempt Editor Nat), (∀ x, Accepts (next x)) → Accepts
          (if slots.contains slot = true then insertSlot e.next slot ms >>= next
            else next ⟨⟩) := by
        intro slot next hnext
        split
        · exact (accepts_insertSlot e.next slot ms).bind hnext
        · exact hnext _
      exact hslot .items _ fun _ => hslot .yes _ fun _ => hslot .no _ fun _ =>
        Attempt.accepts_pure _
  | null | bool | int | float | str | arr => exact Attempt.accepts_misfit _

theorem accepts_insertSlot (handle : Nat) (slot : Slot) (ms : List (String × Json)) :
    Accepts (insertSlot handle slot ms) := by
  cases ms with
  | nil => exact Attempt.accepts_modify _
  | cons m ms =>
      obtain ⟨name, v⟩ := m
      rw [insertSlot]
      split
      · exact (Attempt.accepts_modify _).bind fun _ => accepts_insertChildren _ v
      · exact accepts_insertSlot handle slot ms

theorem accepts_insertChildren (place : Place) (v : Json) :
    Accepts (insertChildren place v) := by
  cases v with
  | arr vs => exact accepts_insertAll place vs
  | str | obj => exact Attempt.accepts_pure _
  | null | bool | int | float =>
      rw [insertChildren]
      · split
        · exact Attempt.accepts_misfit _
        · exact Attempt.accepts_pure _
      all_goals simp

theorem accepts_insertAll (place : Place) (vs : List Json) : Accepts (insertAll place vs) := by
  cases vs with
  | nil => exact Attempt.accepts_pure _
  | cons v vs =>
      cases hobject : v.isObject with
      | false =>
          rw [insertAll_of_other hobject]
          exact accepts_insertAll place vs
      | true =>
          rw [insertAll_of_object hobject]
          exact (accepts_insert place .last v).bind fun _ => accepts_insertAll place vs

end

theorem untouched_add (e : Editor) (raw : Json) (parent : Option Int) (slot : Json)
    (position : Position) : Untouched e ((add raw parent slot position).run e) := by
  rw [add]
  split
  · exact Attempt.untouched_error e _
  · have hinsert : ∀ place, Accepts (do
        let handle ← insert place position raw
        touch
        return handle) := fun place =>
      (accepts_insert place position raw).bind fun _ => accepts_touch.bind fun _ =>
        Attempt.accepts_pure _
    rw [Attempt.run_bind, Attempt.run_get, Attempt.andThen_ok]
    exact Attempt.untouched_lift_bind fun place => (hinsert place).untouched e e

theorem untouched_remove (e : Editor) (handle : Int) : Untouched e ((remove handle).run e) := by
  rw [remove, Attempt.run_bind, Attempt.run_get, Attempt.andThen_ok]
  refine Attempt.untouched_lift_bind fun item => Accepts.untouched ?_ e e
  exact (accepts_delist _ _).bind fun _ => (Attempt.accepts_modify _).bind fun _ => accepts_touch

theorem untouched_move (e : Editor) (handle : Int) (parent : Option Int) (slot : Json)
    (position : Position) : Untouched e ((move handle parent slot position).run e) := by
  rw [move, Attempt.run_bind, Attempt.run_get, Attempt.andThen_ok]
  refine Attempt.untouched_lift_bind fun item => ?_
  rw [Attempt.run_bind, Attempt.run_get, Attempt.andThen_ok]
  refine Attempt.untouched_lift_bind fun place => ?_
  rw [Attempt.run_bind, Attempt.run_get, Attempt.andThen_ok]
  split
  · exact Attempt.untouched_error e _
  · refine Accepts.untouched ?_ e e
    exact (accepts_delist _ _).bind fun _ => (accepts_enlist _ _ _).bind fun _ =>
      (Attempt.accepts_modify _).bind fun _ => accepts_touch

theorem untouched_select (e : Editor) (handle : Option Int) :
    Untouched e ((select handle).run e) := by
  cases handle with
  | none => exact (Attempt.accepts_modify _).untouched e e
  | some handle =>
      rw [select, Attempt.run_bind, Attempt.run_get, Attempt.andThen_ok]
      exact Attempt.untouched_lift_bind fun item => (Attempt.accepts_modify _).untouched e e

/-! ### Changes of attributes -/

/-- The rule that a change of one attribute breaks. -/
def broken? (attributes : Entries Json) (name : String) (value : Json) : Option Refusal :=
  if (Slot.ofName? name).isSome then some (.childrenAttribute name)
  else if name = "type" && !Json.sameAs (attributes.get? "type") value then some .typeFixed
  else none

/-- What is made of attributes before a change breaks a rule, and the rule. -/
def reviseUntil : Entries Json → Entries Json → Entries Json × Option Refusal
  | [], attributes => (attributes, none)
  | (name, value) :: changes, attributes =>
    match broken? attributes name value with
    | some rule => (attributes, some rule)
    | none => reviseUntil changes (revise name value attributes)

/-- The editor with other attributes for an item. -/
def amended (e : Editor) (k : Nat) (f : Entries Json → Entries Json) : Editor :=
  e.modifyLive k fun item => { item with attributes := f item.attributes }

theorem amended_amended (e : Editor) (k : Nat) (f g : Entries Json → Entries Json) :
    (e.amended k f).amended k g = e.amended k fun attributes => g (f attributes) := by
  simp only [amended, modifyLive, List.map_map, Editor.mk.injEq, true_and, and_true]
  refine List.map_congr_left fun item _ => ?_
  by_cases hitem : item.handle = k
  · simp [hitem]
  · simp [hitem]

/-- Functions that agree on the attributes of the item change the editor in the same way. -/
theorem Depicts.amended_congr (h : Depicts e w) {k : Nat} (hitem : e.find? k = some item)
    {f g : Entries Json → Entries Json} (heq : f item.attributes = g item.attributes) :
    e.amended k f = e.amended k g := by
  simp only [amended, modifyLive, Editor.mk.injEq, true_and, and_true]
  refine List.map_congr_left fun other hother => ?_
  split
  · next hk =>
      obtain rfl : other = item :=
        Option.some.inj ((h.find?_of_mem hother).symm.trans (hk ▸ hitem))
      rw [heq]
  · rfl

theorem Depicts.amended_self (h : Depicts e w) {k : Nat} (hitem : e.find? k = some item) :
    e.amended k (fun _ => item.attributes) = e := by
  rw [h.amended_congr hitem (f := fun _ => item.attributes) (g := id) rfl]
  simp [amended, modifyLive]

theorem find?_amended {k : Nat} (hitem : e.find? k = some item)
    (f : Entries Json → Entries Json) :
    (e.amended k f).find? k = some { item with attributes := f item.attributes } := by
  have hfind := find?_modifyLive e k
    (f := fun item => { item with attributes := f item.attributes }) (fun _ => rfl) k
  rw [amended, hfind, hitem, Option.map_some, if_pos (handle_of_find? hitem)]

/-- A change that breaks no rule is taken, and one that breaks a rule leaves everything. -/
theorem run_updateOne (h : Depicts e w) {k : Nat} (hitem : e.find? k = some item) (name : String)
    (value : Json) :
    (updateOne k name value).run e =
      match broken? item.attributes name value with
      | some rule => (.error (.refused rule), e)
      | none => (.ok (), e.amended k (revise name value)) := by
  rw [updateOne, broken?]
  split
  · rfl
  · simp only [Attempt.run_bind, Attempt.run_get, Attempt.andThen_ok, hitem, Option.map_some,
      Option.getD_some]
    split
    · rfl
    · show ((.ok ⟨⟩, _) : Except Failure Unit × Editor) = _
      refine congrArg (Except.ok (), ·) ?_
      exact h.amended_congr hitem (f := fun _ => revise name value item.attributes) rfl

/-- **The changes are taken one after the other, up to the first that breaks a rule.** -/
theorem run_updateAll (h : Depicts e w) {k : Nat} (hitem : e.find? k = some item)
    (changes : Entries Json) :
    (updateAll k changes).run e =
      ((reviseUntil changes item.attributes).2.elim (.ok ()) fun rule => .error (.refused rule),
        e.amended k fun _ => (reviseUntil changes item.attributes).1) := by
  induction changes generalizing e w item with
  | nil =>
      show (.ok (), e) = ((.ok (), _) : Except Failure Unit × Editor)
      rw [reviseUntil, h.amended_self hitem]
  | cons change changes ih =>
      obtain ⟨name, value⟩ := change
      have hone := run_updateOne h hitem name value
      rw [updateAll, Attempt.run_bind, reviseUntil]
      cases hbroken : broken? item.attributes name value with
      | some rule =>
          rw [hbroken] at hone
          rw [hone, Attempt.andThen_error, h.amended_self hitem]
          rfl
      | none =>
          rw [hbroken] at hone
          have hdepicts : Depicts (e.amended k (revise name value))
              (w.amend k (revise name value)) := by
            have hleads := leads_updateOne w k name value e h
            rw [hone] at hleads
            exact hleads.of_ok
          rw [hone, Attempt.andThen_ok, ih hdepicts (find?_amended hitem _), amended_amended]

/-- How far some changes get: the last of what was taken comes before a change that breaks a
rule. -/
theorem reviseUntil_eq_some {changes attributes revised : Entries Json} {rule : Refusal}
    (h : reviseUntil changes attributes = (revised, some rule)) :
    ∃ taken name value rest, changes = taken ++ (name, value) :: rest ∧
      reviseUntil taken attributes = (revised, none) ∧ revised = reviseAll taken attributes ∧
      broken? revised name value = some rule := by
  induction changes generalizing attributes with
  | nil => cases h
  | cons change changes ih =>
      obtain ⟨name, value⟩ := change
      rw [reviseUntil] at h
      cases hbroken : broken? attributes name value with
      | some first =>
          rw [hbroken] at h
          obtain ⟨rfl, hrule⟩ := Prod.mk.inj h
          exact ⟨[], name, value, changes, rfl, rfl, rfl, hbroken.trans hrule⟩
      | none =>
          rw [hbroken] at h
          obtain ⟨taken, other, v, rest, rfl, htaken, hrevised, hother⟩ := ih h
          refine ⟨(name, value) :: taken, other, v, rest, rfl, ?_, hrevised, hother⟩
          rw [reviseUntil, hbroken]
          exact htaken

/-- A change of attributes gets to the item and its attributes, if all of these can be passed. -/
theorem run_update {handle : Int} {changes : Entries Json}
    (hpassed : changes.names.any isReserved = false) :
    (update handle changes).run e = Attempt.andThen (e.require handle, e)
      (fun item => do updateAll item.handle changes; touch) := by
  simp only [update, hpassed, Bool.false_eq_true, if_false, Attempt.run_bind, Attempt.run_get,
    Attempt.andThen_ok, Attempt.run_lift]

/-! ### What is left -/

/-- What a declined change leaves: the editor as it was, unless it is a change of attributes of an
item that is there; then the attributes are changed that came before the first that is declined. -/
inductive Leaves (e : Editor) : Edit → Failure → Editor → Prop
  | untouched {edit : Edit} (hother : ∀ handle changes, edit ≠ .update handle changes)
      (failure : Failure) : Leaves e edit failure e
  | unknown {handle : Int} {failure : Failure} (hmissing : e.require handle = .error failure)
      (changes : Entries Json) : Leaves e (.update handle changes) failure e
  | partly {handle : Int} {item : Live} (hitem : e.require handle = .ok item)
      {taken : Entries Json} {name : String} {value : Json} {rule : Refusal}
      (htaken : reviseUntil taken item.attributes = (reviseAll taken item.attributes, none))
      (hbroken : broken? (reviseAll taken item.attributes) name value = some rule)
      (rest : Entries Json) :
      Leaves e (.update handle (taken ++ (name, value) :: rest)) (.refused rule)
        (e.amended item.handle (reviseAll taken))

/-- Two editors in which everything stands where it stood, and that show the same of themselves but
for attributes. -/
structure SameStanding (e e' : Editor) : Prop where
  version : e'.version = e.version
  selected : e'.selected = e.selected
  dirty : e'.dirty = e.dirty
  contains : ∀ handle, e'.contains handle = e.contains handle
  children : ∀ place, e'.children place = e.children place
  location : ∀ handle, e'.location handle = e.location handle

theorem SameStanding.refl (e : Editor) : SameStanding e e :=
  ⟨rfl, rfl, rfl, fun _ => rfl, fun _ => rfl, fun _ => rfl⟩

theorem sameStanding_amended (e : Editor) (k : Nat) (f : Entries Json → Entries Json) :
    SameStanding e (e.amended k f) where
  version := rfl
  selected := rfl
  dirty := rfl
  children := fun _ => rfl
  contains := by
    intro handle
    have hfind := find?_modifyLive e k
      (f := fun item => { item with attributes := f item.attributes }) (fun _ => rfl) handle.toNat
    rw [contains, amended, hfind, Option.isSome_map, contains]
  location := by
    intro handle
    have hfind := find?_modifyLive e k
      (f := fun item => { item with attributes := f item.attributes }) (fun _ => rfl) handle.toNat
    have hlists : ∀ place, (e.amended k f).list? place = e.list? place := fun _ => rfl
    simp only [location, require, hlists]
    rw [amended, hfind]
    by_cases hpos : 0 ≤ handle
    · rw [if_pos hpos, if_pos hpos]
      cases e.find? handle.toNat with
      | none => rfl
      | some item => by_cases hk : item.handle = k <;> simp [hk, bind, Except.bind]
    · rw [if_neg hpos, if_neg hpos]

theorem Leaves.sameStanding {edit : Edit} {failure : Failure} (h : Leaves e edit failure e') :
    SameStanding e e' := by
  cases h with
  | untouched | unknown => exact .refl e
  | partly => exact sameStanding_amended _ _ _

theorem Depicts.leaves_update (h : Depicts e w) {handle : Int} {changes : Entries Json}
    {failure : Failure} (hfailed : ((update handle changes).run e).1 = .error failure)
    (hdeclines : failure.Declines) :
    Leaves e (.update handle changes) failure ((update handle changes).run e).2 := by
  cases hpassed : changes.names.any isReserved with
  | true =>
      rw [update, if_pos hpassed] at hfailed
      obtain rfl := Except.error.inj hfailed
      cases hdeclines
  | false =>
  rw [run_update hpassed] at hfailed ⊢
  cases hitem : e.require handle with
  | error missing =>
      rw [hitem] at hfailed
      obtain rfl := Except.error.inj hfailed
      exact .unknown hitem changes
  | ok item =>
      have hall := run_updateAll h (require_eq_ok hitem).1 changes
      rw [hitem, Attempt.andThen_ok, Attempt.run_bind, hall] at hfailed
      rw [Attempt.andThen_ok, Attempt.run_bind, hall]
      cases huntil : reviseUntil changes item.attributes with
      | mk revised broken =>
          rw [huntil] at hfailed
          cases broken with
          | none => cases hfailed
          | some rule =>
              obtain rfl := Except.error.inj hfailed
              obtain ⟨taken, name, value, rest, rfl, htaken, rfl, hbroken⟩ :=
                reviseUntil_eq_some huntil
              have hleft : (e.amended item.handle fun _ => reviseAll taken item.attributes) =
                  e.amended item.handle (reviseAll taken) :=
                h.amended_congr (require_eq_ok hitem).1 rfl
              show Leaves e _ _ (e.amended item.handle fun _ => _)
              rw [hleft]
              exact .partly hitem htaken hbroken rest

theorem Depicts.leaves (h : Depicts e w) {edit : Edit} {failure : Failure}
    (hfailed : (edit.attempt.run e).1 = .error failure) (hdeclines : failure.Declines) :
    Leaves e edit failure (edit.after e) := by
  have hof : (∀ handle changes, edit ≠ .update handle changes) →
      Untouched e (edit.attempt.run e) → Leaves e edit failure (edit.after e) := by
    intro hother huntouched
    rw [Edit.after, huntouched failure hfailed hdeclines]
    exact .untouched hother failure
  cases edit with
  | add raw parent slot position =>
      exact hof (fun _ _ h => by cases h) (untouched_add e raw parent slot position).forget
  | update handle changes => exact h.leaves_update hfailed hdeclines
  | remove handle => exact hof (fun _ _ h => by cases h) (untouched_remove e handle)
  | move handle parent slot position =>
      exact hof (fun _ _ h => by cases h) (untouched_move e handle parent slot position)
  | select handle => exact hof (fun _ _ h => by cases h) (untouched_select e handle)

/-- **A declined change leaves the editor as it was, but for a change of attributes, which has
changed those before the first that was declined;** in any case everything stands where it stood,
with the same selection, and whether anything was edited is noted as before. -/
theorem declined_leaves (h : Opened e₀) (edits : List Edit) {edit : Edit} {failure : Failure}
    (hfailed : (edit.attempt.run (after edits e₀)).1 = .error failure)
    (hdeclines : failure.Declines) :
    let e := after edits e₀
    let e' := edit.after e
    Leaves e edit failure e' ∧ SameStanding e e' := by
  obtain ⟨w, hw, -⟩ := h.depicts_after edits
  have hleaves := hw.leaves hfailed hdeclines
  exact ⟨hleaves, hleaves.sameStanding⟩

/-- A move into itself is declined and leaves everything; so does an update of what is not there. -/
theorem declined_leaves_move :
    let edits : List Edit := [.add (.obj [("type", .str "block")]) none (.str "items") .last]
    let e := after edits { version := .int 1 }
    Leaves e (.move 0 (some 0) (.str "items") .last) (.refused .insideItself) e ∧
      Leaves e (.update 7 [("text", .str "new")]) (.notFound "Item" (.int 7)) e := by
  have hopened := Opened.empty (.int 1)
  exact ⟨(declined_leaves hopened _ rfl (.rule _)).1,
    (declined_leaves hopened _ rfl (.missing _ _)).1⟩

/-- A document is opened, and the text of an item is changed together with its type, which is
fixed.  The change is declined, but the text is changed; and nothing was edited, it says. -/
theorem text_changed_by_declined_update :
    let d : Document := ⟨1, [.info "old" .null]⟩
    let edit : Edit := .update 0 [("text", .str "new"), ("type", .str "line")]
    ∃ e, ofDocument d = .ok e ∧
      (edit.attempt.run e).1 = .error (.refused .typeFixed) ∧
      (edit.after e).toJson = (⟨1, [.info "new" .null]⟩ : Document).toJson ∧
      (edit.after e).toJson ≠ e.toJson ∧ (edit.after e).dirty = false := by
  refine ⟨_, rfl, rfl, rfl, fun hsame => ?_, rfl⟩
  have hdocuments : (⟨1, [.info "new" .null]⟩ : Document).toJson =
      (⟨1, [.info "old" .null]⟩ : Document).toJson := hsame
  simp [Document.toJson, Item.allToJson, Item.toJson, Item.typed, Item.field,
    Json.speaks] at hdocuments

end Editor

end Questionnaire
