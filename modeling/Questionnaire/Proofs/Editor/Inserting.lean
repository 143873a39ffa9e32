/-
What can be put into an editor.

A new item goes in with all that it holds.  Only the types of the items in it and what stands where
children should stand can be in the way: a type that is a list or an object cannot be looked up, and
a value that is no list and does not count as nothing has no children to go through.  `Insertable`
says of a value that nothing in it is in the way, and it decides how the attempt ends, in whatever
state it is made, `ends_insert`.

What is made of a value that can be written can be written, `writable_read` and `writable_toJson`.
-/
import Questionnaire.Proofs.Editor.Adding
import Questionnaire.Proofs.Json.RoundTrip

namespace Questionnaire

/-! ### Setting attributes -/

namespace Json

variable {ms more : Entries Json}

theorem writable_set (h : (obj ms).Writable) (name : String) {value : Json}
    (hvalue : value.Writable) : (obj (ms.set name value)).Writable := by
  obtain ⟨hnames, hvalues⟩ := writable_obj.mp h
  refine writable_obj.mpr ⟨Entries.nodup_set hnames name value, fun m hm => ?_⟩
  rcases Entries.mem_set hm with heq | hold
  · exact heq ▸ hvalue
  · exact hvalues m hold

theorem writable_setAll (h : (obj ms).Writable) (hmore : ∀ m ∈ more, m.2.Writable) :
    (obj (ms.setAll more)).Writable := by
  induction more generalizing ms with
  | nil => exact h
  | cons m more ih =>
      obtain ⟨hm, hrest⟩ := List.forall_mem_cons.mp hmore
      exact ih (writable_set h m.1 hm) hrest

end Json

namespace Attempt

variable {σ α β : Type} {c c' : Prop} {a : Attempt σ α}

/-- The attempt ends well if a condition holds, whatever the state, and is a misfit if not. -/
def Ends (c : Prop) (a : Attempt σ α) : Prop :=
  ∀ s, (c → ∃ x, (a.run s).1 = .ok x) ∧ (¬c → (a.run s).1 = .error (.misfit .kind))

theorem ends_pure (x : α) : Ends True (pure x : Attempt σ α) :=
  fun _ => ⟨fun _ => ⟨x, rfl⟩, fun h => absurd trivial h⟩

theorem ends_modify (f : σ → σ) : Ends True (modify f : Attempt σ PUnit) :=
  fun _ => ⟨fun _ => ⟨⟨⟩, rfl⟩, fun h => absurd trivial h⟩

theorem ends_misfit (h : ¬c) : Ends c (throw (.misfit .kind) : Attempt σ α) :=
  fun _ => ⟨fun hc => absurd hc h, fun _ => rfl⟩

theorem Ends.congr (h : Ends c a) (hiff : c ↔ c') : Ends c' a := propext hiff ▸ h

theorem Ends.bind {next : α → Attempt σ β} (h : Ends c a) (hnext : ∀ x, Ends c' (next x)) :
    Ends (c ∧ c') (a >>= next) := by
  intro s
  obtain ⟨hok, herror⟩ := h s
  rw [run_bind]
  cases hrun : a.run s with
  | mk outcome after =>
      rw [hrun] at hok herror
      cases outcome with
      | ok x =>
          have hc : c := Classical.byContradiction fun hc => nomatch herror hc
          exact ⟨fun hboth => (hnext x after).1 hboth.2,
            fun hnot => (hnext x after).2 fun hc' => hnot ⟨hc, hc'⟩⟩
      | error failure =>
          have hc : ¬c := fun hc => nomatch hok hc
          obtain rfl := Except.error.inj (herror hc)
          exact ⟨fun hboth => absurd hboth.1 hc, fun _ => rfl⟩

/-- A first step that is taken in some cases only. -/
theorem Ends.guarded {a : Attempt σ PUnit} {next : PUnit → Attempt σ β} (h : Ends c a)
    (hnext : ∀ x, Ends c' (next x)) (b : Bool) :
    Ends ((b = true → c) ∧ c') (if b = true then a >>= next else next ⟨⟩) := by
  cases b with
  | true => exact (h.bind hnext).congr (by simp)
  | false => exact (hnext ⟨⟩).congr (by simp)

end Attempt

namespace Editor

open Attempt (Ends)
open Questionnaire.Editor.Tree

variable {e : Editor}

/-! ### What can be put in -/

mutual

/-- A value can be put in: it is an object whose type can be looked up, and so can all that
stands under its slots. -/
def Insertable : Json → Prop
  | .obj ms => ∃ slots, Slot.ofType ((Entries.get? ms "type").getD .null) = .ok slots ∧
      ∀ slot ∈ slots, SlotInsertable slot ms
  | _ => False

/-- What stands under a slot can be put in. -/
def SlotInsertable (slot : Slot) : List (String × Json) → Prop
  | [] => True
  | (name, v) :: ms => if name = slot.name then ChildrenInsertable v else SlotInsertable slot ms

/-- The children can be put in: a list of values all of which can if they are objects, or a value
that counts as no children. -/
def ChildrenInsertable : Json → Prop
  | .arr vs => AllInsertable vs
  | .str _ | .obj _ => True
  | v => v.truthy = false

def AllInsertable : List Json → Prop
  | [] => True
  | v :: vs => (v.isObject = true → Insertable v) ∧ AllInsertable vs

end

theorem ends_insertSlots {ms : Entries Json} {k : Nat}
    (hms : ∀ slot, Ends (SlotInsertable slot ms) (insertSlot k slot ms)) (slots : List Slot) :
    Ends (∀ slot ∈ slots, SlotInsertable slot ms) (insertSlots k slots ms) := by
  have h := (hms .items).guarded (fun _ => (hms .yes).guarded (fun _ => (hms .no).guarded
    (fun _ => Attempt.ends_pure k) (slots.contains .no)) (slots.contains .yes))
    (slots.contains .items)
  refine Ends.congr h ⟨?_, fun hall => ?_⟩
  · rintro ⟨hitems, hyes, hno, -⟩ slot hslot
    have hcontains := List.contains_iff_mem.mpr hslot
    cases slot with
    | items => exact hitems hcontains
    | yes => exact hyes hcontains
    | no => exact hno hcontains
  · exact ⟨fun hc => hall _ (List.contains_iff_mem.mp hc),
      fun hc => hall _ (List.contains_iff_mem.mp hc),
      fun hc => hall _ (List.contains_iff_mem.mp hc), trivial⟩

/-- An item is put where a position says if its type can be looked up and its slots can be
filled. -/
theorem ends_insert_at {ms : Entries Json} {place : Place} {position : Position} {n : Nat}
    (hposition : position.offset (e.children place).length = .ok n)
    (hms : ∀ k slot, Ends (SlotInsertable slot ms) (insertSlot k slot ms)) :
    (Insertable (.obj ms) → ∃ k, ((insert place position (.obj ms)).run e).1 = .ok k) ∧
      (¬Insertable (.obj ms) →
        ((insert place position (.obj ms)).run e).1 = .error (.misfit .kind)) := by
  rw [Insertable]
  cases hslots : Slot.ofType ((Entries.get? ms "type").getD .null) with
  | error m =>
      rw [run_insert_untyped hslots, error_ofType hslots]
      refine ⟨?_, fun _ => rfl⟩
      rintro ⟨_, hok, -⟩
      cases hok
  | ok slots =>
      obtain ⟨hok, herror⟩ := ends_insertSlots (hms e.next) slots
        ((e.recorded place (Slot.own ms)).putList place (insertAt n e.next (e.children place)))
      rw [run_insert_at hslots hposition]
      refine ⟨?_, fun hnot => herror fun hall => hnot ⟨slots, rfl, hall⟩⟩
      rintro ⟨_, hsame, hall⟩
      exact hok (Except.ok.inj hsame ▸ hall)

mutual

/-- **An item is put in with all that it holds just if it can be.** -/
theorem ends_insert (place : Place) (v : Json) : Ends (Insertable v) (insert place .last v) := by
  cases v with
  | obj ms => exact fun e => ends_insert_at rfl fun k slot => ends_insertSlot k slot ms
  | null | bool | int | float | str | arr =>
      refine Attempt.ends_misfit ?_
      simp [Insertable]

theorem ends_insertSlot (k : Nat) (slot : Slot) (ms : List (String × Json)) :
    Ends (SlotInsertable slot ms) (insertSlot k slot ms) := by
  cases ms with
  | nil => exact Attempt.ends_modify _
  | cons m ms =>
      obtain ⟨name, v⟩ := m
      rw [insertSlot, SlotInsertable]
      by_cases hname : name = slot.name
      · rw [if_pos hname, if_pos hname]
        exact ((Attempt.ends_modify _).bind fun _ => ends_insertChildren _ v).congr (by simp)
      · rw [if_neg hname, if_neg hname]
        exact ends_insertSlot k slot ms

theorem ends_insertChildren (place : Place) (v : Json) :
    Ends (ChildrenInsertable v) (insertChildren place v) := by
  cases v with
  | arr vs => exact ends_insertAll place vs
  | str | obj => exact Attempt.ends_pure _
  | null | bool | int | float =>
      rw [insertChildren, ChildrenInsertable]
      · split
        · next htruthy => exact Attempt.ends_misfit (by rw [htruthy]; decide)
        · next htruthy => exact (Attempt.ends_pure _).congr (by simpa using htruthy)
      all_goals simp

theorem ends_insertAll (place : Place) (vs : List Json) :
    Ends (AllInsertable vs) (insertAll place vs) := by
  cases vs with
  | nil => exact Attempt.ends_pure _
  | cons v vs =>
      have hrest := ends_insertAll place vs
      rw [AllInsertable]
      cases hobject : v.isObject with
      | false =>
          rw [insertAll_of_other hobject]
          exact hrest.congr (by simp)
      | true =>
          rw [insertAll_of_object hobject]
          exact ((ends_insert place v).bind fun _ => hrest).congr (by simp)

end

namespace Tree

/-! ### What is written of what was put in -/

/-- What is kept of an object when entries are left out can be written. -/
theorem writable_filter {ms : Entries Json} (h : (Json.obj ms).Writable)
    (p : String × Json → Bool) : (Json.obj (ms.filter p)).Writable := by
  obtain ⟨hnames, hvalues⟩ := Json.writable_obj.mp h
  exact Json.writable_obj.mpr ⟨(List.filter_sublist.map Prod.fst).nodup hnames,
    fun m hm => hvalues m (List.mem_of_mem_filter hm)⟩

/-- The attributes of each of some trees can be written. -/
def AllWritable (ts : List Tree) : Prop := ∀ n ∈ ts, (Json.obj n.attributes).Writable

mutual

/-- The attributes of all that is made of a value that can be written can be written. -/
theorem writable_read (first : Nat) (v : Json) (h : v.Writable) :
    AllWritable (read first v).nodes := by
  cases v with
  | obj ms =>
      have hunder : ∀ next slot, AllWritable (allNodes (if (Slot.ofAttributes ms).contains slot then
          readSlot next slot ms else [])) := by
        intro next slot
        split
        · exact writable_readSlot next slot ms (Json.writable_obj.mp h).2
        · exact List.forall_mem_nil _
      intro n hn
      rw [read] at hn
      rcases mem_nodes.mp hn with rfl | ⟨slot, hslot⟩
      · exact writable_filter h _
      · cases slot <;> exact hunder _ _ n hslot
  | null | bool | int | float | str | arr =>
      intro n hn
      have hself : n ∈ allNodes [leaf first []] := by
        rw [allNodes_singleton]
        exact hn
      rw [allNodes_leaf] at hself
      rw [List.mem_singleton.mp hself]
      exact Json.writable_obj.mpr ⟨List.nodup_nil, List.forall_mem_nil _⟩

theorem writable_readSlot (first : Nat) (slot : Slot) (ms : List (String × Json))
    (h : ∀ m ∈ ms, m.2.Writable) : AllWritable (allNodes (readSlot first slot ms)) := by
  cases ms with
  | nil => exact List.forall_mem_nil _
  | cons m ms =>
      obtain ⟨name, v⟩ := m
      obtain ⟨hv, hms⟩ := List.forall_mem_cons.mp h
      rw [readSlot]
      split
      · exact writable_readChildren first v hv
      · exact writable_readSlot first slot ms hms

theorem writable_readChildren (first : Nat) (v : Json) (h : v.Writable) :
    AllWritable (allNodes (readChildren first v)) := by
  cases v with
  | arr vs => exact writable_readAll first vs (Json.writable_arr.mp h)
  | null | bool | int | float | str | obj => exact List.forall_mem_nil _

theorem writable_readAll (first : Nat) (vs : List Json) (h : ∀ v ∈ vs, v.Writable) :
    AllWritable (allNodes (readAll first vs)) := by
  cases vs with
  | nil => exact List.forall_mem_nil _
  | cons v vs =>
      obtain ⟨hv, hvs⟩ := List.forall_mem_cons.mp h
      rw [readAll]
      split
      · exact List.forall_mem_append.mpr ⟨writable_read first v hv, writable_readAll _ vs hvs⟩
      · exact writable_readAll first vs hvs

end

mutual

/-- A tree whose attributes can all be written can be written. -/
theorem writable_toJson {t : Tree} (h : AllWritable t.nodes) : t.toJson.Writable := by
  cases t with
  | node handle attributes inside =>
      have hinside (slot : Slot) : ∀ v ∈ allToJson (inside slot), v.Writable :=
        writable_allToJson fun n hn =>
          h n (allNodes_subset_nodes (.node handle attributes inside) slot n hn)
      rw [toJson]
      refine Json.writable_setAll (h _ (self_mem_nodes _)) fun m hm => ?_
      obtain ⟨slot, -, hslot⟩ := List.mem_filterMap.mp hm
      split at hslot
      · cases hslot
      · obtain rfl := Option.some.inj hslot
        exact Json.writable_arr.mpr (hinside slot)

theorem writable_allToJson {ts : List Tree} (h : AllWritable (allNodes ts)) :
    ∀ v ∈ allToJson ts, v.Writable := by
  cases ts with
  | nil => exact List.forall_mem_nil _
  | cons t ts =>
      obtain ⟨ht, hts⟩ := List.forall_mem_append.mp h
      rw [allToJson, List.forall_mem_cons]
      exact ⟨writable_toJson ht, writable_allToJson hts⟩

end

end Tree

end Editor

end Questionnaire
