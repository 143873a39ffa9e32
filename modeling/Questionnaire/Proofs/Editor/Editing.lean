/-
Editing.

What every operation of the editor makes of the woods that it depicts.  An operation that succeeds
is one step on the woods: `ledTo_add` puts the tree that is read from a value into a list,
`ledTo_update` changes the attributes of a node, `ledTo_remove` takes a node out with all it
holds, and `ledTo_move` takes it out and puts it into another list.  One that fails leaves the
woods as they were, save for what stands in the middle of it: attributes that were set before one
was refused, and the two ways in which a position that is none leaves a tree that stands nowhere.
-/
import Questionnaire.Proofs.Editor.Adding
import Questionnaire.Proofs.Editor.Reading

namespace Questionnaire.Editor

open Questionnaire.Editor.Tree
open Questionnaire.Attempt (LedTo Leads)

variable {e e' : Editor} {w : Woods} {place : Place} {position : Position} {item : Live}

/-! ### Naming items and places -/

theorem require_eq_ok {handle : Int} (h : e.require handle = .ok item) :
    e.find? item.handle = some item ∧ (item.handle : Int) = handle := by
  unfold require at h
  split at h
  · next found hfound =>
      obtain rfl := Except.ok.inj h
      split at hfound
      · next hpos =>
          have hhandle := handle_of_find? hfound
          rw [hhandle]
          exact ⟨hfound, Int.toNat_of_nonneg hpos⟩
      · cases hfound
  · cases h

theorem require_of_find? {k : Nat} (h : e.find? k = some item) : e.require k = .ok item := by
  rw [require, if_pos (Int.natCast_nonneg k), Int.toNat_natCast, h]

/-- What is equal to a text is the text. -/
theorem eq_str_of_equal {v : Json} {text : String} (h : Json.equal v (.str text) = true) :
    v = .str text := by
  cases v with
  | str other =>
      rw [Json.equal, beq_iff_eq] at h
      rw [h]
  | null | bool | int | float | arr | obj =>
      simp [Json.equal, Json.numericEqual?, Json.number?] at h

theorem sameAs_str_iff {stored : Option Json} {s : String} :
    Json.sameAs stored (.str s) = true ↔ stored = some (.str s) := by
  cases stored with
  | none => simp [Json.sameAs, Json.equal, Json.numericEqual?, Json.number?]
  | some v =>
      rw [Option.some.injEq]
      refine ⟨eq_str_of_equal, ?_⟩
      rintro rfl
      rw [Json.sameAs, Option.getD_some, Json.equal, beq_self_eq_true]

/-- A place that is named is the top level or a slot of an item that is there. -/
theorem place_eq_ok {parent : Option Int} {slot : Json} (h : e.place parent slot = .ok place) :
    slot = .str place.slot.name ∧ (place = .top ∧ parent = none ∨
      ∃ handle item, parent = some handle ∧ e.require handle = .ok item ∧
        ∃ s ∈ Slot.ofAttributes item.attributes, place = ⟨some item.handle, s⟩) := by
  unfold Editor.place at h
  cases parent with
  | none =>
      simp only at h
      split at h
      · next hslot =>
          obtain rfl := Except.ok.inj h
          exact ⟨eq_str_of_equal hslot, Or.inl ⟨rfl, rfl⟩⟩
      · cases h
  | some handle =>
      simp only [bind, Except.bind] at h
      cases hitem : e.require handle with
      | error failure =>
          rw [hitem] at h
          cases h
      | ok item =>
          simp only [hitem] at h
          split at h
          · next s hs =>
              obtain rfl := Except.ok.inj h
              have hname := List.find?_some hs
              exact ⟨eq_str_of_equal hname,
                Or.inr ⟨handle, item, rfl, hitem, s, List.mem_of_find?_eq_some hs, rfl⟩⟩
          · cases h

theorem Depicts.open_of_place (h : Depicts e w) {parent : Option Int} {slot : Json}
    (hplace : e.place parent slot = .ok place) : w.Open place := by
  obtain ⟨-, ⟨htop, -⟩ | ⟨handle, item, -, hitem, s, hs, rfl⟩⟩ := place_eq_ok hplace
  · exact Or.inl htop
  · obtain ⟨n, hn, hhandle, hattributes⟩ :=
      h.node_of_live (List.mem_of_find?_eq_some (require_eq_ok hitem).1)
    rw [← hattributes] at hs
    exact Or.inr ⟨n.label, Woods.label_mem_labels hn, s, hs, by rw [← hhandle]; rfl⟩

/-- A parent, or none for the top level, and the name of a slot stand for a place. -/
def Place.Named (place : Place) (parent : Option Int) (slot : Json) : Prop :=
  place.parent.map Int.ofNat = parent ∧ slot = .str place.slot.name

theorem named_of_place {parent : Option Int} {slot : Json} (h : e.place parent slot = .ok place) :
    place.Named parent slot := by
  obtain ⟨hslot, ⟨rfl, rfl⟩ | ⟨handle, item, rfl, hitem, s, -, rfl⟩⟩ := place_eq_ok h
  · exact ⟨rfl, hslot⟩
  · exact ⟨congrArg some (require_eq_ok hitem).2, hslot⟩

theorem Depicts.touched (h : Depicts e w) : Depicts { e with dirty := true } w :=
  h.of_tables rfl rfl (Nat.le_refl _) h.selected

/-! ### Adding -/

theorem ledTo_add (h : Depicts e w) (raw : Json) (parent : Option Int) (slot : Json)
    (position : Position) :
    LedTo
      (fun k e' => raw.isObject = true ∧ position.Usable ∧ k = e.next ∧
        ∃ place, e.place parent slot = .ok place ∧
          Depicts e' (w.edit place (put position (read e.next raw))))
      (Halfway w ((∃ place, e.place parent slot = .ok place) ∧ Astray position raw))
      ((add raw parent slot position).run e) := by
  rw [add]
  cases hobject : raw.isObject with
  | false =>
      refine .error (h.halfway.of_not id ?_)
      rintro ⟨-, -, htrue, -⟩
      rw [hobject] at htrue
      cases htrue
  | true =>
      simp only [Bool.not_true, Bool.false_eq_true, if_false, Attempt.run_bind, Attempt.run_get,
        Attempt.andThen_ok, Attempt.run_lift]
      cases hplace : e.place parent slot with
      | error failure =>
          refine .error (h.halfway.of_not id ?_)
          rintro ⟨⟨place, hok⟩, -⟩
          cases hok
      | ok place =>
          have hopen := h.open_of_place hplace
          rw [Attempt.andThen_ok, Attempt.run_bind]
          refine ((leads_insert hopen e.next position raw e ⟨h, rfl⟩).mono (fun _ _ => id)
            fun e' he' => ?_).andThen fun k e' he' => ?_
          · rwa [and_iff_right ⟨place, rfl⟩]
          · obtain ⟨-, husable, rfl, hadded, -⟩ := he'
            exact .ok ⟨trivial, husable, rfl, place, rfl, hadded.touched⟩

/-! ### Removing -/

/-- An item that is taken out of its list stands nowhere, with all it holds. -/
theorem ledTo_delist (h : Depicts e w) (place : Place) (k : Nat) :
    LedTo
      (fun _ e' => ∃ ts t, w.Open place ∧ w.ListAt place ts ∧ t ∈ ts ∧ t.handle = k ∧
        Depicts e' ((w.edit place (without k)).aside [t]))
      (fun e' => e' = e ∧ k ∉ e.children place)
      ((delist place k).run e) := by
  rw [delist]
  simp only [Attempt.run_bind, Attempt.run_get, Attempt.andThen_ok]
  have hchildren : e.children place = (e.list? place).getD [] := rfl
  cases hlist : e.list? place with
  | none => exact .error ⟨rfl, by rw [hchildren, hlist]; exact List.not_mem_nil⟩
  | some handles =>
      obtain ⟨hopen, ts, hts, rfl⟩ := h.listAt_of_list? hlist
      simp only
      split
      · next hmem =>
          obtain ⟨t, ht, rfl⟩ := List.mem_map.mp (List.contains_iff_mem.mp hmem)
          have hdelisted := h.delisted hts hopen ht
          rw [h.children hts] at hdelisted
          exact .ok ⟨ts, t, hopen, hts, ht, rfl, hdelisted⟩
      · next hout =>
          refine .error ⟨rfl, ?_⟩
          rw [hchildren, hlist]
          exact fun hmem => hout (List.contains_iff_mem.mpr hmem)

theorem ledTo_remove (h : Depicts e w) (handle : Int) :
    LedTo
      (fun _ e' => ∃ item ts, e.require handle = .ok item ∧ w.ListAt item.place ts ∧
        item.handle ∈ ts.map Tree.handle ∧ Depicts e' (w.edit item.place (without item.handle)))
      (fun e' => e' = e ∧ ∀ item, e.require handle = .ok item →
        item.handle ∉ e.children item.place)
      ((remove handle).run e) := by
  rw [remove]
  simp only [Attempt.run_bind, Attempt.run_get, Attempt.andThen_ok, Attempt.run_lift]
  cases hitem : e.require handle with
  | error failure => exact .error ⟨rfl, fun item hok => nomatch hok⟩
  | ok item =>
      rw [Attempt.andThen_ok, Attempt.run_bind]
      refine ((ledTo_delist h item.place item.handle).mono (fun _ _ => id)
        fun e' he' => ?_).andThen fun _ e₁ he₁ => ?_
      · obtain ⟨rfl, hout⟩ := he'
        refine ⟨rfl, fun item' hok => ?_⟩
        obtain rfl := Except.ok.inj hok
        exact hout
      obtain ⟨ts, t, -, hts, ht, hhandle, hloose⟩ := he₁
      have hsubtree := hloose.subtree_eq (Woods.mem_nodes_aside _ t)
      have hdropped := hloose.discard
      rw [← hsubtree, hhandle] at hdropped
      refine .ok ⟨item, ts, rfl, hts, ?_, hdropped.touched⟩
      exact hhandle ▸ List.mem_map_of_mem ht

/-! ### Moving -/

/-- A place that is open stays open where a tree is taken out that it is not inside of. -/
theorem Depicts.open_without (h : Depicts e w) {other : Place} {ts : List Tree} {t : Tree}
    (hopen : w.Open other) (hts : w.ListAt place ts) (ht : t ∈ ts)
    (hout : ∀ p, other.parent = some p → p ∉ t.handles) :
    (w.edit place (without t.handle)).Open other := by
  have hlabels := Woods.perm_exchange h.nodup hts (hts.perm_without h.nodup ht)
  rw [Woods.aside_nil] at hlabels
  refine (hopen.mono fun l hl => hlabels.mem_iff.mpr hl).of_aside fun p hp => ?_
  rw [allHandles_singleton]
  exact hout p hp

/-- A tree that stands nowhere is put into a list, and the list is recorded for it. -/
theorem leads_enlist {t : Tree} (hopen : w.Open place) (position : Position) :
    Leads (Depicts · (w.aside [t]))
      (do
        enlist place position t.handle
        modify (·.modifyLive t.handle fun item => { item with place })
        touch)
      (fun _ e' => position.Usable ∧ Depicts e' (w.edit place (put position t)))
      (fun e' => ¬position.Usable ∧ Depicts e' (w.aside [t])) := by
  intro e h
  obtain ⟨hmoved, hplaced⟩ := h.relocate place
  rw [Attempt.run_bind]
  cases hoffset : position.offset (e.children place).length with
  | error m =>
      rw [run_enlist_misfit hoffset]
      exact .error ⟨Position.not_usable_of_offset hoffset, h.establish (hopen.aside [t])⟩
  | ok offset =>
      rw [run_enlist hoffset]
      exact .ok ⟨Position.usable_of_offset hoffset,
        (hmoved.enlisted hplaced hopen hoffset).touched⟩

/-- A move gets as far as taking the item out of its list, and the position is none. -/
def Uprooted (e : Editor) (handle : Int) (parent : Option Int) (slot : Json) (position : Position) :
    Prop :=
  ¬position.Usable ∧ ∃ item place, e.require handle = .ok item ∧ e.place parent slot = .ok place ∧
    place.parent.any (e.subtree item.handle).contains = false ∧
    item.handle ∈ e.children item.place

theorem ledTo_move (h : Depicts e w) (handle : Int) (parent : Option Int) (slot : Json)
    (position : Position) :
    LedTo
      (fun _ e' => position.Usable ∧ ∃ item ts t place, e.require handle = .ok item ∧
        w.ListAt item.place ts ∧ t ∈ ts ∧ t.handle = item.handle ∧
        e.place parent slot = .ok place ∧ (w.edit item.place (without t.handle)).Open place ∧
        Depicts e' ((w.edit item.place (without t.handle)).edit place (put position t)))
      (fun e' => ¬e.Uprooted handle parent slot position ∧ e' = e ∨
        e.Uprooted handle parent slot position ∧ ∃ item ts t, e.require handle = .ok item ∧
          w.ListAt item.place ts ∧ t ∈ ts ∧ t.handle = item.handle ∧
          Depicts e' ((w.edit item.place (without t.handle)).aside [t]))
      ((move handle parent slot position).run e) := by
  rw [move]
  simp only [Attempt.run_bind, Attempt.run_get, Attempt.andThen_ok, Attempt.run_lift]
  cases hitem : e.require handle with
  | error failure =>
      refine .error (Or.inl ⟨?_, rfl⟩)
      rintro ⟨-, item, -, hok, -⟩
      rw [hitem] at hok
      cases hok
  | ok item =>
      simp only [Attempt.run_bind, Attempt.run_get, Attempt.andThen_ok, Attempt.run_lift]
      cases hplace : e.place parent slot with
      | error failure =>
          refine .error (Or.inl ⟨?_, rfl⟩)
          rintro ⟨-, -, place, -, hok, -⟩
          rw [hplace] at hok
          cases hok
      | ok place =>
          have huprooted : e.Uprooted handle parent slot position ↔ ¬position.Usable ∧
              place.parent.any (e.subtree item.handle).contains = false ∧
              item.handle ∈ e.children item.place := by
            simp only [Uprooted, hitem, hplace, Except.ok.injEq, exists_and_left, exists_eq_left']
          rw [huprooted]
          simp only [Attempt.run_bind, Attempt.run_get, Attempt.andThen_ok]
          split
          · next hinside => exact .error (Or.inl ⟨by simp [hinside], rfl⟩)
          · next hinside =>
              rw [Attempt.run_bind]
              refine ((ledTo_delist h item.place item.handle).mono (fun _ _ => id)
                fun e' he' => Or.inl ⟨fun hup => he'.2 hup.2.2, he'.1⟩).andThen fun _ e₁ he₁ => ?_
              obtain ⟨ts, t, -, hts, ht, hhandle, hloose⟩ := he₁
              have hmember : t.handle ∈ e.children item.place :=
                h.children hts ▸ List.mem_map_of_mem ht
              have hinside' := Bool.eq_false_iff.mpr hinside
              rw [← hhandle] at hinside hinside' hloose ⊢
              rw [h.subtree_eq (hts.mem_nodes ht)] at hinside
              -- The item is not moved into itself, so the place outlives its leaving.
              have hout : ∀ p, place.parent = some p → p ∉ t.handles := by
                intro p hp hmem
                rw [hp] at hinside
                exact hinside (List.contains_iff_mem.mpr hmem)
              have hopen := h.open_without (h.open_of_place hplace) hts ht hout
              refine (leads_enlist hopen position e₁ hloose).mono ?_ ?_
              · rintro - e' ⟨husable, he'⟩
                exact ⟨husable, item, ts, t, place, rfl, hts, ht, hhandle, rfl, hopen, he'⟩
              · rintro e' ⟨hnot, he'⟩
                exact Or.inr ⟨⟨hnot, hinside', hmember⟩, item, ts, t, rfl, hts, ht, hhandle, he'⟩

/-! ### Changing attributes -/

/-- What one change makes of attributes: null and the empty text take a name away. -/
def revise (name : String) (value : Json) (attributes : Entries Json) : Entries Json :=
  match value with
  | .null | .str "" => attributes.erase name
  | value => attributes.set name value

/-- One change after the other. -/
def reviseAll : Entries Json → Entries Json → Entries Json
  | [], attributes => attributes
  | (name, value) :: changes, attributes => reviseAll changes (revise name value attributes)

theorem get?_erase (attributes : Entries Json) (name other : String) :
    (attributes.erase name).get? other = if other = name then none else attributes.get? other := by
  rw [Entries.erase, Entries.get?_filter (fun n => decide (n ≠ name))]
  by_cases h : other = name <;> simp [h]

theorem get?_revise_of_ne {name other : String} (h : other ≠ name) (value : Json)
    (attributes : Entries Json) :
    (revise name value attributes).get? other = attributes.get? other := by
  unfold revise
  split
  · rw [get?_erase, if_neg h]
  · rw [get?_erase, if_neg h]
  · exact Entries.get?_set_of_ne attributes _ h

/-- The slots of a type, none where it cannot be looked up. -/
def slotsOf (type : Json) : List Slot :=
  match Slot.ofType type with
  | .ok slots => slots
  | .error _ => []

/-- Types that are equal have the same slots. -/
theorem slotsOf_of_equal {type other : Json} (h : Json.equal type other = true) :
    slotsOf type = slotsOf other := by
  cases type with
  | str name =>
      cases other with
      | str name' => rw [eq_str_of_equal h]
      | null | bool | int | float | arr | obj =>
          simp [Json.equal, Json.numericEqual?, Json.number?] at h
  | null | bool | int | float | arr | obj =>
      cases other with
      | str name' => simp [Json.equal, Json.numericEqual?, Json.number?] at h
      | null | bool | int | float | arr | obj => rfl

/-- A change of the type to an equal one, or of anything else, leaves the slots. -/
theorem ofAttributes_revise {name : String} {value : Json} {attributes : Entries Json}
    (h : name = "type" → Json.sameAs (attributes.get? "type") value = true) :
    Slot.ofAttributes (revise name value attributes) = Slot.ofAttributes attributes := by
  by_cases hname : name = "type"
  · subst hname
    have hsame : slotsOf ((attributes.get? "type").getD .null) = slotsOf value :=
      slotsOf_of_equal (h rfl)
    show slotsOf (((revise "type" value attributes).get? "type").getD .null) =
      slotsOf ((attributes.get? "type").getD .null)
    rw [hsame]
    unfold revise
    split
    · rw [get?_erase, if_pos rfl]
      rfl
    · rw [get?_erase, if_pos rfl]
      rfl
    · rw [Entries.get?_set_self]
      rfl
  · exact Slot.ofAttributes_congr (get?_revise_of_ne (Ne.symm hname) value attributes)

theorem tidy_revise {name : String} {value : Json} {attributes : Entries Json}
    (htidy : Slot.Tidy attributes) (hslot : Slot.ofName? name = none)
    (h : name = "type" → Json.sameAs (attributes.get? "type") value = true) :
    Slot.Tidy (revise name value attributes) := by
  intro slot hmem
  rw [ofAttributes_revise h] at hmem
  have hne : slot.name ≠ name := by
    rintro rfl
    cases slot <;> cases hslot
  rw [get?_revise_of_ne hne]
  exact htidy slot hmem

/-- The attributes of an item are set to what a function makes of them. -/
theorem modifyLive_const (h : Depicts e w) (k : Nat) (f : Entries Json → Entries Json) :
    (e.modifyLive k fun item =>
        { item with attributes := f (((e.find? k).map Live.attributes).getD []) }) =
      e.modifyLive k fun item => { item with attributes := f item.attributes } := by
  have hlive : (e.live.map fun item => if item.handle = k then
        { item with attributes := f (((e.find? k).map Live.attributes).getD []) } else item) =
      e.live.map fun item => if item.handle = k then
        { item with attributes := f item.attributes } else item := by
    refine List.map_congr_left fun item hitem => ?_
    by_cases hk : item.handle = k
    · rw [if_pos hk, if_pos hk, ← hk, h.find?_of_mem hitem]
      rfl
    · rw [if_neg hk, if_neg hk]
  exact congrArg (fun live => { e with live }) hlive

theorem leads_updateOne (w : Woods) (k : Nat) (name : String) (value : Json) :
    Leads (Depicts · w) (updateOne k name value)
      (fun _ e' => Depicts e' (w.amend k (revise name value))) (Depicts · w) := by
  intro e h
  rw [updateOne]
  split
  · exact .error h
  · next hslot =>
      simp only [Attempt.run_bind, Attempt.run_get, Attempt.andThen_ok]
      split
      · exact .error h
      · next htype =>
          have hslot' : Slot.ofName? name = none := by simpa using hslot
          have hallowed : ∀ l ∈ w.labels, l.1 = k → name = "type" →
              Json.sameAs (l.2.get? "type") value = true := by
            intro l hl hk hname
            obtain ⟨n, hn, rfl⟩ := List.mem_map.mp hl
            have hfound : (e.find? k).map Live.attributes = some n.attributes :=
              hk ▸ h.attributes? hn
            show Json.sameAs (n.attributes.get? "type") value = true
            simpa [hname, hfound] using htype
          have hamended := h.amend (k := k) (f := revise name value) fun l hl hk =>
            ⟨tidy_revise (h.tidy l hl) hslot' (hallowed l hl hk),
              ofAttributes_revise (hallowed l hl hk)⟩
          rw [← modifyLive_const h] at hamended
          exact .ok hamended

theorem leads_updateAll (w : Woods) (k : Nat) (changes : Entries Json) :
    Leads (Depicts · w) (updateAll k changes)
      (fun _ e' => Depicts e' (w.amend k (reviseAll changes)))
      (fun e' => ∃ f, Depicts e' (w.amend k f)) := by
  induction changes generalizing w with
  | nil =>
      refine Attempt.leads_pure fun e h => ?_
      rwa [show reviseAll [] = id from rfl, Woods.amend_id]
  | cons change changes ih =>
      obtain ⟨name, value⟩ := change
      rw [updateAll]
      have hone := (leads_updateOne w k name value).relax fun e h =>
        (⟨id, by rwa [Woods.amend_id]⟩ : ∃ f, Depicts e (w.amend k f))
      refine hone.bind fun _ => ((ih _).weaken fun _ e h => ?_).relax ?_
      · rw [Woods.amend_amend] at h
        exact h
      · rintro e ⟨f, h⟩
        rw [Woods.amend_amend] at h
        exact ⟨_, h⟩

theorem ledTo_update (h : Depicts e w) (handle : Int) (changes : Entries Json) :
    LedTo
      (fun _ e' => ∃ item, e.require handle = .ok item ∧
        Depicts e' (w.amend item.handle (reviseAll changes)))
      (fun e' => e' = e ∨ ∃ item f, e.require handle = .ok item ∧
        Depicts e' (w.amend item.handle f))
      ((update handle changes).run e) := by
  rw [update]
  split
  · exact .error (Or.inl rfl)
  · simp only [Attempt.run_bind, Attempt.run_get, Attempt.andThen_ok, Attempt.run_lift]
    cases hitem : e.require handle with
    | error failure => exact .error (Or.inl rfl)
    | ok item =>
        rw [Attempt.andThen_ok, Attempt.run_bind]
        refine (((leads_updateAll w item.handle changes) e h).mono (fun _ _ => id) ?_).andThen
          fun _ e' he' => ?_
        · rintro e' ⟨f, hf⟩
          exact Or.inr ⟨item, f, rfl, hf⟩
        · exact .ok ⟨item, rfl, he'.touched⟩

/-! ### Selecting -/

theorem ledTo_select (h : Depicts e w) (handle : Option Int) :
    LedTo (fun _ e' => Depicts e' w) (fun e' => e' = e) ((select handle).run e) := by
  cases handle with
  | none => exact .ok (h.of_tables rfl rfl (Nat.le_refl _) fun k hk => nomatch hk)
  | some handle =>
      rw [select]
      simp only [Attempt.run_bind, Attempt.run_get, Attempt.andThen_ok, Attempt.run_lift]
      cases hitem : e.require handle with
      | error failure => exact .error rfl
      | ok item =>
          refine .ok (h.of_tables rfl rfl (Nat.le_refl _) fun k hk => ?_)
          obtain rfl : item.handle = k := Option.some.inj hk
          exact h.find?_isSome_iff.mp (by rw [(require_eq_ok hitem).1]; rfl)

end Questionnaire.Editor
