/-
Adding an item.

An item is recorded, put into its list, and then everything it holds is added in turn.  In the woods
that is one step: the tree that is read from the value is put into the list, `leads_insert`.  The
induction is on the value, along the recursion of the attempt itself; a slot that is being filled
belongs to the item that was put there last, so filling it can be thought of as done beforehand.

An attempt that stops halfway leaves an editor that still depicts woods.  Only a position that is no
position makes a tree that stands nowhere, and then nothing else has changed, `Halfway`.
-/
import Questionnaire.Proofs.Editor.Depicting

namespace Questionnaire.Editor

open Questionnaire.Editor.Tree

variable {e e' : Editor} {w : Woods} {place : Place} {position : Position} {ms : Entries Json}
  {slots : List Slot}

/-! ### Running an insertion -/

theorem putList_putList (e : Editor) (place : Place) (handles more : List Nat) :
    (e.putList place handles).putList place more = e.putList place more := by
  have hlists : setList (setList e.lists place handles) place more =
      setList e.lists place more := by
    induction e.lists with
    | nil => simp [setList]
    | cons l lists ih =>
        obtain ⟨p, hs⟩ := l
        by_cases hp : p = place
        · simp [setList, hp]
        · simp [setList, hp, ih]
  show ({ e with lists := _ } : Editor) = { e with lists := _ }
  rw [← hlists]
  rfl

theorem run_enlist {offset : Nat} (h : position.offset (e.children place).length = .ok offset)
    (k : Nat) :
    (enlist place position k).run e =
      (.ok ⟨⟩, e.putList place (insertAt offset k (e.children place))) := by
  rw [enlist]
  simp only [Attempt.run_bind, Attempt.run_get, Attempt.andThen_ok, Attempt.run_set,
    Attempt.run_fit, h, Except.mapError, Attempt.run_modify, putList_putList]

theorem run_enlist_misfit {m : Misfit} (h : position.offset (e.children place).length = .error m)
    (k : Nat) :
    (enlist place position k).run e =
      (.error (.misfit m), e.putList place (e.children place)) := by
  rw [enlist]
  simp only [Attempt.run_bind, Attempt.run_get, Attempt.andThen_ok, Attempt.run_set,
    Attempt.run_fit, h, Except.mapError, Attempt.andThen_error]

/-- The editor with an item recorded under the next handle, in no list yet. -/
def recorded (e : Editor) (place : Place) (own : Entries Json) : Editor :=
  { e with next := e.next + 1, live := e.live ++ [⟨e.next, own, place⟩] }

theorem Depicts.recorded (h : Depicts e w) {own : Entries Json} (htidy : Slot.Tidy own)
    (place : Place) : Depicts (e.recorded place own) (w.aside [leaf e.next own]) := by
  have hused : Depicts { e with next := e.next + 1 } w :=
    h.of_tables rfl rfl (Nat.le_succ _) h.selected
  exact hused.record (fun hmem => Nat.lt_irrefl _ (h.fresh _ hmem)) (Nat.lt_succ_self _) htidy place

theorem Depicts.placeOf?_recorded (h : Depicts e w) {own : Entries Json} (htidy : Slot.Tidy own)
    (place : Place) : (e.recorded place own).placeOf? e.next = some place := by
  have hmem : (⟨e.next, own, place⟩ : Live) ∈ (e.recorded place own).live :=
    List.mem_append_right _ (List.mem_singleton_self _)
  rw [placeOf?, (h.recorded htidy place).find?_of_mem hmem]
  rfl

/-- An item of a type is recorded, put into its list, and then its slots are filled. -/
theorem run_insert_typed (hslots : Slot.ofType ((ms.get? "type").getD .null) = .ok slots) :
    (insert place position (.obj ms)).run e =
      Attempt.andThen ((enlist place position e.next).run (e.recorded place (Slot.own ms)))
        fun _ => insertSlots e.next slots ms := by
  have hkind : Slot.ofType ((ms.lookup "type").getD .null) = .ok slots := hslots
  have hown : (ms.filter fun m => !slots.any (·.name = m.1)) = Slot.own ms := by
    rw [Slot.own, Slot.ofAttributes_of_ofType hslots]
  rw [insert, hkind]
  simp only [Attempt.run_bind, Attempt.run_get, Attempt.andThen_ok, Attempt.run_modify,
    Attempt.run_fit, Except.mapError, hown]
  rfl

theorem run_insert_at (hslots : Slot.ofType ((ms.get? "type").getD .null) = .ok slots)
    {offset : Nat} (hoffset : position.offset (e.children place).length = .ok offset) :
    (insert place position (.obj ms)).run e =
      (insertSlots e.next slots ms).run ((e.recorded place (Slot.own ms)).putList place
        (insertAt offset e.next (e.children place))) := by
  have hlisted : (e.recorded place (Slot.own ms)).children place = e.children place := rfl
  rw [run_insert_typed hslots, run_enlist (hlisted ▸ hoffset), Attempt.andThen_ok, hlisted]

/-- An item whose position is no position stays recorded and stands in no list. -/
theorem run_insert_astray (hslots : Slot.ofType ((ms.get? "type").getD .null) = .ok slots)
    {m : Misfit} (hoffset : position.offset (e.children place).length = .error m) :
    (insert place position (.obj ms)).run e =
      (.error (.misfit m),
        (e.recorded place (Slot.own ms)).putList place (e.children place)) := by
  have hlisted : (e.recorded place (Slot.own ms)).children place = e.children place := rfl
  rw [run_insert_typed hslots, run_enlist_misfit (hlisted ▸ hoffset), Attempt.andThen_error,
    hlisted]

/-- An item whose type cannot be looked up uses up a handle. -/
theorem run_insert_untyped {m : Misfit}
    (hslots : Slot.ofType ((ms.get? "type").getD .null) = .error m) :
    (insert place position (.obj ms)).run e =
      (.error (.misfit m), { e with next := e.next + 1 }) := by
  have hkind : Slot.ofType ((ms.lookup "type").getD .null) = .error m := hslots
  rw [insert, hkind]
  simp [Except.mapError]

/-! ### What is reached -/

/-- A value that can be recorded is to be put where no position says. -/
def Astray (position : Position) (v : Json) : Prop :=
  ¬position.Usable ∧ v.isObject = true ∧ ∃ slots, Slot.ofType (v.getD "type") = .ok slots

/-- What an attempt that stops halfway leaves of the woods.  A tree comes loose just where the
attempt goes astray, and then nothing changes at the top level. -/
def Halfway (w : Woods) (astray : Prop) (e : Editor) : Prop :=
  ∃ w', Depicts e w' ∧ (w'.loose = [] ↔ w.loose = [] ∧ ¬astray) ∧ (astray → w'.roots = w.roots)

/-- The editor depicts the woods, and a number is the next handle. -/
def Holding (w : Woods) (next : Nat) (e : Editor) : Prop := Depicts e w ∧ e.next = next

theorem Halfway.of_edit {f : List Tree → List Tree} (h : Halfway (w.edit place f) False e) :
    Halfway w False e := by
  obtain ⟨w', hw', hloose, -⟩ := h
  rw [Woods.loose_edit_eq_nil] at hloose
  exact ⟨w', hw', hloose, False.elim⟩

theorem Halfway.of_not {astray other : Prop} (h : Halfway w astray e) (hnot : ¬astray)
    (hnot' : ¬other) : Halfway w other e := by
  rwa [← iff_of_false hnot hnot']

/-- Nothing happened to the woods. -/
theorem Depicts.halfway (h : Depicts e w) : Halfway w False e := ⟨w, h, by simp, False.elim⟩

/-! ### Filling the slots of a new item -/

/-- The list at a place is empty, if there is one. -/
def Vacant (w : Woods) (place : Place) : Prop := ∀ us, w.ListAt place us → us = []

theorem edit_append_nil (w : Woods) (place : Place) : w.edit place (· ++ []) = w := by
  have hid : (fun ts : List Tree => ts ++ []) = id := funext List.append_nil
  rw [hid, Woods.edit_id]

/-- The editor depicts the woods with what was added, or something in between. -/
def Adds (w : Woods) (place : Place) (n : Nat) (a : Attempt Editor Unit) (us : List Tree) : Prop :=
  Attempt.Leads (Holding w n) a
    (fun _ => Holding (w.edit place (· ++ us)) (n + (allHandles us).length)) (Halfway w False)

theorem adds_nothing (w : Woods) (place : Place) (n : Nat) : Adds w place n (pure ()) [] := by
  rintro e he
  refine .ok ?_
  rwa [edit_append_nil]

/-- What is written under a slot can be added to a list that is there and is empty. -/
def Fills (ms : Entries Json) : Prop :=
  ∀ {w : Woods} {k : Nat} {slot : Slot} (n : Nat), w.Open ⟨some k, slot⟩ → Vacant w ⟨some k, slot⟩ →
    Adds w ⟨some k, slot⟩ n (insertSlot k slot ms) (readSlot n slot ms)

/-- A node that was put into a list holds nothing yet. -/
theorem vacant_leaf (hnodup : w.handles.Nodup) (hopen : w.Open place) {k : Nat}
    (hk : k ∉ w.handles) (own : Entries Json) (slot : Slot) :
    Vacant (w.edit place (put position (leaf k own))) ⟨some k, slot⟩ := by
  obtain ⟨ts, hlist⟩ := hopen.listAt
  intro us hus
  rcases Woods.listAt_edit hnodup hlist _ hus with
    ⟨rfl, -⟩ | ⟨-, us', hus', -⟩ | ⟨n, hn, s, hplace, rfl⟩
  · exact absurd (hlist.owner_mem rfl) hk
  · exact absurd (hus'.owner_mem rfl) hk
  · obtain ⟨hhandle, rfl⟩ := Place.mk.inj hplace
    have hhandle : k = n.handle := Option.some.inj hhandle
    rcases mem_allNodes_put hn with hn | hn
    · exact absurd (hhandle ▸ Woods.handle_mem_handles (hlist.nodes_subset n hn)) hk
    · have hleaf : n = leaf k own := by
        rw [← List.append_nil (leaf k own).nodes] at hn
        exact List.mem_singleton.mp ((allNodes_leaf k own) ▸ hn)
      rw [hleaf]
      rfl

/-- Filling one slot leaves the next one open and empty. -/
theorem vacant_after {w : Woods} {k : Nat} {slot other : Slot} (hnodup : w.handles.Nodup)
    (hne : other ≠ slot) (hopen : w.Open ⟨some k, slot⟩) (hvacant : Vacant w ⟨some k, slot⟩)
    {us : List Tree} (hus : k ∉ allHandles us) (hother : Vacant w ⟨some k, other⟩) :
    Vacant (w.edit ⟨some k, slot⟩ (· ++ us)) ⟨some k, other⟩ := by
  obtain ⟨ts, hlist⟩ := hopen.listAt
  intro vs hvs
  rw [hvacant ts hlist] at hlist
  rcases Woods.listAt_edit hnodup hlist _ hvs with
    ⟨hplace, -⟩ | ⟨-, vs', hvs', heq⟩ | ⟨n, hn, s, hplace, -⟩
  · exact absurd (Place.mk.inj hplace).2 hne
  · rw [hother vs' hvs'] at heq
    exact List.map_eq_nil_iff.mp heq
  · have hhandle : k = n.handle := Option.some.inj (Place.mk.inj hplace).1
    exact absurd (hhandle ▸ List.mem_map_of_mem hn) hus

/-- The woods with a new item that holds nothing yet. -/
def budded (w : Woods) (place : Place) (position : Position) (k : Nat) (ms : Entries Json) :
    Woods :=
  w.edit place (put position (leaf k (Slot.own ms)))

/-- A new item has lists for its slots, and there is nothing in them. -/
structure Budding (w : Woods) (place : Place) (position : Position) (k : Nat) (ms : Entries Json) :
    Prop where
  unused : k ∉ w.handles
  nodup : (budded w place position k ms).handles.Nodup
  opened : ∀ slot ∈ Slot.ofAttributes ms, (budded w place position k ms).Open ⟨some k, slot⟩
  vacant : ∀ slot, Vacant (budded w place position k ms) ⟨some k, slot⟩

/-- What is filled into the slots of a new item makes the tree that is read. -/
def Completes (w : Woods) (place : Place) (position : Position) (k : Nat) (slots : List Slot)
    (ms : Entries Json) : Prop :=
  Attempt.Leads (Holding (budded w place position k ms) (k + 1)) (insertSlots k slots ms)
    (fun k' e => k' = k ∧ Holding (w.edit place (put position (read k (.obj ms))))
      (k + (read k (.obj ms)).handles.length) e)
    (Halfway w False)

theorem Depicts.budding {k : Nat} (h : Depicts e (budded w place position k ms))
    (hnodup : w.handles.Nodup) (hopen : w.Open place) (hk : k ∉ w.handles)
    (husable : position.Usable) : Budding w place position k ms where
  unused := hk
  nodup := h.nodup
  opened := by
    intro slot hslot
    obtain ⟨ts, hlist⟩ := hopen.listAt
    have hlabels := Woods.labels_edit_of_perm hnodup hlist
      (perm_put husable (leaf k (Slot.own ms)) ts)
    refine Or.inr ⟨(k, Slot.own ms), ?_, slot, by rwa [Slot.ofAttributes_own], rfl⟩
    refine hlabels.mem_iff.mpr (List.mem_append_right _ ?_)
    rw [allLabels, allNodes_leaf]
    exact List.mem_singleton_self _
  vacant := vacant_leaf hnodup hopen hk (Slot.own ms)

namespace Budding

variable {k : Nat} (h : Budding w place position k ms)

include h

/-- What is filled into a slot of the new item was there when the item came. -/
theorem edit_budded (slot : Slot) (f : List Tree → List Tree) :
    (budded w place position k ms).edit ⟨some k, slot⟩ f =
      w.edit place (put position ((leaf k (Slot.own ms)).edit k slot f)) :=
  Woods.edit_edit_put h.unused place position slot f

theorem completes_block (hms : Fills ms) (hslots : Slot.ofAttributes ms = [.items]) :
    Completes w place position k [.items] ms := by
  have hrun : insertSlots k [.items] ms = insertSlot k .items ms >>= fun _ => pure k := by
    simp [insertSlots]
  have hopen := h.opened .items (hslots ▸ List.mem_singleton_self _)
  have hitems := (hms (k + 1) hopen (h.vacant .items)).relax fun e he => he.of_edit
  rw [h.edit_budded, edit_leaf_items] at hitems
  have hcount : k + (read k (.obj ms)).handles.length =
      k + 1 + (allHandles (readSlot (k + 1) .items ms)).length := by
    rw [read_of_block k hslots, length_handles_filled, allHandles_nil, List.length_nil]
    omega
  rw [Completes, hrun, hcount, read_of_block k hslots]
  exact hitems.bind fun _ => Attempt.leads_pure fun e he => ⟨rfl, he⟩

theorem completes_yesNo (hms : Fills ms) (hslots : Slot.ofAttributes ms = [.yes, .no]) :
    Completes w place position k [.yes, .no] ms := by
  have hrun : insertSlots k [.yes, .no] ms =
      insertSlot k .yes ms >>= fun _ => insertSlot k .no ms >>= fun _ => pure k := by
    simp [insertSlots]
  have hopen : ∀ slot ∈ [Slot.yes, Slot.no],
      (budded w place position k ms).Open ⟨some k, slot⟩ := hslots ▸ h.opened
  have hopenYes := hopen .yes (by decide)
  have hyes := (hms (k + 1) hopenYes (h.vacant .yes)).relax fun e he => he.of_edit
  -- The second slot is filled where the first one is filled already: it is still open and empty.
  obtain ⟨us, hus⟩ := hopenYes.listAt
  have hopenNo := (hopen .no (by decide)).edit_of_perm h.nodup hus
    (f := (· ++ readSlot (k + 1) .yes ms)) (.refl _)
  have hout : k ∉ allHandles (readSlot (k + 1) .yes ms) := by
    rw [numberedFrom_readSlot (k + 1) .yes ms, List.mem_range'_1]
    omega
  have hvacantNo := vacant_after h.nodup (by decide) hopenYes (h.vacant .yes) hout (h.vacant .no)
  have hno := (hms (k + 1 + (allHandles (readSlot (k + 1) .yes ms)).length) hopenNo hvacantNo).relax
    fun e he => he.of_edit.of_edit
  rw [h.edit_budded, edit_leaf_yes] at hyes hno
  let halfFilled := node k (Slot.own ms) (filled [] (readSlot (k + 1) .yes ms) [])
  have hhandle : halfFilled.handle = k := rfl
  have hlast := Woods.edit_edit_put (hhandle ▸ h.unused) place position .no
  rw [hhandle] at hlast
  rw [hlast, edit_filled_no] at hno
  have hcount : k + (read k (.obj ms)).handles.length =
      k + 1 + (allHandles (readSlot (k + 1) .yes ms)).length + (allHandles (readSlot
        (k + 1 + (allHandles (readSlot (k + 1) .yes ms)).length) .no ms)).length := by
    rw [read_of_yesNo k hslots, length_handles_filled, allHandles_nil, List.length_nil]
    omega
  rw [Completes, hrun, hcount, read_of_yesNo k hslots]
  exact hyes.bind fun _ => hno.bind fun _ => Attempt.leads_pure fun e he => ⟨rfl, he⟩

/-- The slots of a new item are filled one after the other. -/
theorem completes (hms : Fills ms) : Completes w place position k (Slot.ofAttributes ms) ms := by
  rcases Slot.ofAttributes_cases ms with ⟨-, hslots⟩ | ⟨-, hslots⟩ | ⟨-, -, hslots⟩
  · exact hslots ▸ h.completes_block hms hslots
  · exact hslots ▸ h.completes_yesNo hms hslots
  · rw [hslots, Completes, read_of_no_slots k hslots]
    rintro e he
    exact .ok ⟨rfl, he⟩

end Budding

/-! ### Adding -/

theorem insertAll_of_object {v : Json} (h : v.isObject = true) (place : Place) (vs : List Json) :
    insertAll place (v :: vs) = insert place .last v >>= fun _ => insertAll place vs := by
  rw [insertAll, h, if_pos rfl]

theorem insertAll_of_other {v : Json} (h : v.isObject = false) (place : Place) (vs : List Json) :
    insertAll place (v :: vs) = insertAll place vs := by
  rw [insertAll, h]
  simp

/-- What is added to a list can be added in two parts. -/
theorem edit_append_append (w : Woods) (place : Place) (us vs : List Tree) :
    (w.edit place (· ++ us)).edit place (· ++ vs) = w.edit place (· ++ (us ++ vs)) := by
  rw [Woods.edit_edit]
  exact congrArg _ (funext fun ts => List.append_assoc ts us vs)

mutual

/-- **An item is added with all that it holds.** -/
theorem leads_insert {w : Woods} {place : Place} (hopen : w.Open place) (n : Nat)
    (position : Position) (v : Json) :
    Attempt.Leads (Holding w n) (insert place position v)
      (fun k e => v.isObject = true ∧ position.Usable ∧ k = n ∧
        Holding (w.edit place (put position (read n v))) (n + (read n v).handles.length) e)
      (Halfway w (Astray position v)) := by
  rintro e ⟨h, rfl⟩
  cases v with
  | obj ms =>
      have hnew : e.next ∉ w.handles := fun hmem => Nat.lt_irrefl _ (h.fresh _ hmem)
      have hused : Depicts { e with next := e.next + 1 } w :=
        h.of_tables rfl rfl (Nat.le_succ _) h.selected
      have hrecorded := h.recorded (Slot.tidy_own ms) place
      cases hslots : Slot.ofType ((Entries.get? ms "type").getD .null) with
      | error m =>
          have hnot : ¬Astray position (.obj ms) := by
            rintro ⟨-, -, slots, hok⟩
            rw [show Json.getD (.obj ms) "type" = (Entries.get? ms "type").getD .null from rfl,
              hslots] at hok
            cases hok
          rw [run_insert_untyped hslots]
          exact .error (hused.halfway.of_not id hnot)
      | ok slots =>
          obtain ⟨ts, hlist⟩ := hopen.listAt
          cases hoffset : position.offset (e.children place).length with
          | error m =>
              have hopen' : (w.aside [leaf e.next (Slot.own ms)]).Open place := hopen.aside _
              have hastray : Astray position (.obj ms) :=
                ⟨Position.not_usable_of_offset hoffset, rfl, slots, hslots⟩
              rw [run_insert_astray hslots hoffset]
              exact .error ⟨_, hrecorded.establish hopen', by simp [hastray, Woods.aside],
                fun _ => rfl⟩
          | ok offset =>
              have husable := Position.usable_of_offset hoffset
              have hfills : Fills ms := fun n hopen hvacant => leads_insertSlot hopen hvacant n ms
              have hplaced := h.placeOf?_recorded (Slot.tidy_own ms) place
              have hput : Depicts _ (budded w place position e.next ms) :=
                hrecorded.enlisted hplaced hopen hoffset
              have hbudding := hput.budding h.nodup hopen hnew husable
              have hnot : ¬Astray position (.obj ms) := fun hastray => hastray.1 husable
              rw [run_insert_at hslots hoffset, ← Slot.ofAttributes_of_ofType hslots]
              exact (hbudding.completes hfills _ ⟨hput, rfl⟩).mono
                (fun k e' he' => ⟨rfl, husable, he'⟩) fun e' he' => he'.of_not id hnot
  | null | bool | int | float | str | arr =>
      exact .error (h.halfway.of_not id fun hastray => Bool.false_ne_true hastray.2.1)

theorem leads_insertSlot {w : Woods} {k : Nat} {slot : Slot} (hopen : w.Open ⟨some k, slot⟩)
    (hvacant : Vacant w ⟨some k, slot⟩) (n : Nat) (ms : List (String × Json)) :
    Adds w ⟨some k, slot⟩ n (insertSlot k slot ms) (readSlot n slot ms) := by
  have hempty : ∀ {e}, Holding w n e → Holding w n (e.putList ⟨some k, slot⟩ []) := by
    rintro e ⟨h, hnext⟩
    obtain ⟨ts, hlist⟩ := hopen.listAt
    have hchildren := h.children hlist
    have hlisted := h.establish hopen
    rw [hchildren, hvacant ts hlist] at hlisted
    exact ⟨hlisted, hnext⟩
  cases ms with
  | nil =>
      rintro e he
      exact adds_nothing w _ n _ (hempty he)
  | cons m ms =>
      obtain ⟨name, v⟩ := m
      rw [insertSlot, readSlot]
      by_cases hname : name = slot.name
      · rw [if_pos hname, if_pos hname]
        rintro e he
        exact leads_insertChildren hopen n v _ (hempty he)
      · rw [if_neg hname, if_neg hname]
        exact leads_insertSlot hopen hvacant n ms

theorem leads_insertChildren {w : Woods} {place : Place} (hopen : w.Open place) (n : Nat)
    (v : Json) : Adds w place n (insertChildren place v) (readChildren n v) := by
  cases v with
  | arr vs => exact leads_insertAll hopen n vs
  | str | obj => exact adds_nothing w place n
  | null | bool | int | float =>
      rw [insertChildren]
      · split
        · rintro e ⟨h, -⟩
          exact .error h.halfway
        · exact adds_nothing w place n
      all_goals simp

theorem leads_insertAll {w : Woods} {place : Place} (hopen : w.Open place) (n : Nat)
    (vs : List Json) : Adds w place n (insertAll place vs) (readAll n vs) := by
  cases vs with
  | nil => exact adds_nothing w place n
  | cons v vs =>
      cases hobject : v.isObject with
      | false =>
          rw [insertAll_of_other hobject, readAll, hobject]
          exact leads_insertAll hopen n vs
      | true =>
          rintro e ⟨h, hnext⟩
          obtain ⟨ts, hlist⟩ := hopen.listAt
          have hput : put .last (read n v) = (· ++ [read n v]) := funext (put_last (read n v))
          have hfirst : Attempt.Leads (Holding w n) (insert place .last v)
              (fun _ => Holding (w.edit place (· ++ [read n v])) (n + (read n v).handles.length))
              (Halfway w False) := by
            rw [← hput]
            exact ((leads_insert hopen n .last v).weaken fun k e' he' => he'.2.2.2).relax
              fun e' he' => he'.of_not (fun hastray => hastray.1 trivial) id
          have hopen' : (w.edit place (· ++ [read n v])).Open place :=
            hopen.edit_of_perm h.nodup hlist (.refl _)
          have hrest := (leads_insertAll hopen' (n + (read n v).handles.length) vs).relax
            fun e' he' => he'.of_edit
          have hcount : n + (allHandles (read n v ::
                readAll (n + (read n v).handles.length) vs)).length =
              n + (read n v).handles.length +
                (allHandles (readAll (n + (read n v).handles.length) vs)).length := by
            rw [allHandles_cons, List.length_append, Nat.add_assoc]
          rw [insertAll_of_object hobject, readAll, hobject, if_pos rfl, hcount]
          rw [edit_append_append] at hrest
          exact hfirst.bind (fun _ => hrest) e ⟨h, hnext⟩

end

end Questionnaire.Editor
