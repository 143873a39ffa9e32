/-
How the tables of an editor fit together.

Three tables tell one story: what items there are, where each is recorded to stand, and what
stands in every list.  `Arranged` says how far they agree whatever was done to the editor.  An
item stands once in the list that is recorded for it and in no other, unless it is `Adrift`: then
it stands in none.  That happens just where a change strayed, `arranged_after`; in an editor that
is `Whole` every item can be located, removed and read off.
-/
import Questionnaire.Proofs.Editor.Session

namespace Questionnaire.Editor

open Questionnaire.Editor.Tree

/-- The item is there and stands in no list. -/
def Adrift (e : Editor) (k : Nat) : Prop :=
  (e.find? k).isSome = true ∧ ∀ place, k ∉ e.children place

/-- Going up from an item, along the places that are recorded, ends at an item of some kind. -/
inductive Climbs (e : Editor) (last : Nat → Prop) : Nat → Prop
  | here {k : Nat} (h : last k) : Climbs e last k
  | up {k p : Nat} {slot : Slot} (hplace : e.placeOf? k = some ⟨some p, slot⟩)
      (h : Climbs e last p) : Climbs e last k

/-- The tables agree, save that items may be adrift. -/
structure Arranged (e : Editor) : Prop where
  handles : (e.live.map Live.handle).Nodup
  fresh : ∀ item ∈ e.live, item.handle < e.next
  /-- There is one list for a place, -/
  keys : (e.lists.map Prod.fst).Nodup
  top : (e.list? .top).isSome = true
  /-- which is the top level or a slot that the type of an item has. -/
  owned : ∀ place, (e.list? place).isSome = true → place = .top ∨
    ∃ item ∈ e.live, ∃ slot ∈ Slot.ofAttributes item.attributes, place = ⟨some item.handle, slot⟩
  /-- What stands in a list is an item. -/
  members : ∀ place, ∀ k ∈ e.children place, (e.find? k).isSome = true
  standing : ∀ item ∈ e.live, ¬e.Adrift item.handle →
    ∀ place, (e.children place).count item.handle = if place = item.place then 1 else 0
  climbs : ∀ item ∈ e.live,
    e.Climbs (fun k => e.placeOf? k = some .top ∨ e.Adrift k) item.handle
  selection : ∀ k, e.selected = some k → (e.find? k).isSome = true

/-- Every item stands where it is recorded to stand, below the top level. -/
structure Whole (e : Editor) : Prop where
  standing : ∀ item ∈ e.live, ∀ place,
    (e.children place).count item.handle = if place = item.place then 1 else 0
  grounded : ∀ item ∈ e.live, e.Climbs (fun k => e.placeOf? k = some .top) item.handle
  location : ∀ item ∈ e.live, ∃ i, e.location item.handle = .ok (item.place, i) ∧
    (e.children item.place)[i]? = some item.handle
  removable : ∀ item ∈ e.live, ((remove item.handle).run e).1 = .ok ()
  /-- The trees that are read off hold every item once. -/
  shown : (allLabels e.forest).Perm (e.live.map Live.label)

variable {e e₀ : Editor} {w : Woods} {item : Live} {place : Place} {k : Nat}

theorem Climbs.mono {last last' : Nat → Prop} (h : e.Climbs last k)
    (hmono : ∀ k, last k → last' k) : e.Climbs last' k := by
  induction h with
  | here h => exact .here (hmono _ h)
  | up hplace _ ih => exact .up hplace ih

/-- An item that stands in the list that is recorded for it has a position there. -/
theorem location_of_mem (hitem : e.find? item.handle = some item)
    (hmem : item.handle ∈ e.children item.place) :
    ∃ i, e.location item.handle = .ok (item.place, i) ∧
      (e.children item.place)[i]? = some item.handle := by
  obtain ⟨handles, hlist, hmem⟩ := exists_list?_of_mem hmem
  obtain ⟨i, hi⟩ : ∃ i, handles.findIdx? (· = item.handle) = some i := by
    rw [← Option.isSome_iff_exists, List.findIdx?_isSome, List.any_eq_true]
    exact ⟨item.handle, hmem, decide_eq_true rfl⟩
  refine ⟨i, ?_, ?_⟩
  · rw [location, require_of_find? hitem]
    simp only [bind, Except.bind, hlist, hi]
  · obtain ⟨hlt, hfound, -⟩ := List.findIdx?_eq_some_iff_getElem.mp hi
    rw [children, hlist, Option.getD_some, List.getElem?_eq_getElem hlt]
    exact congrArg some (of_decide_eq_true hfound)

namespace Depicts

/-! ### What the woods say about the tables -/

/-- What stands in a list is recorded to stand there. -/
theorem placeOf?_of_mem (h : Depicts e w) (hmem : k ∈ e.children place) :
    e.placeOf? k = some place := by
  obtain ⟨ts, t, hlist, ht, rfl⟩ := h.mem_children hmem
  exact h.placed hlist t ht

theorem adrift_of_loose (h : Depicts e w) {t : Tree} (ht : t ∈ w.loose) : e.Adrift t.handle := by
  have hnode : t ∈ w.nodes := mem_allNodes.mpr ⟨t, List.mem_append_right _ ht, self_mem_nodes t⟩
  refine ⟨h.find?_isSome_iff.mpr (Woods.handle_mem_handles hnode), fun place hmem => ?_⟩
  obtain ⟨ts, u, hlist, hu, hhandle⟩ := h.mem_children hmem
  exact Woods.loose_notMem h.nodup ht hlist (hhandle ▸ List.mem_map_of_mem hu)

/-- Where no tree is loose, no item is adrift. -/
theorem not_adrift (h : Depicts e w) (hloose : w.loose = []) : ¬e.Adrift k := by
  rintro ⟨hlive, hadrift⟩
  obtain ⟨n, hn, rfl⟩ := Woods.exists_node (h.find?_isSome_iff.mp hlive)
  rcases Woods.listed_or_loose hn with ⟨place, ts, hlist, hmem⟩ | hmem
  · refine hadrift place ?_
    rw [h.children hlist]
    exact List.mem_map_of_mem hmem
  · rw [hloose] at hmem
    cases hmem

theorem standing (h : Depicts e w) (hitem : item ∈ e.live) (hadrift : ¬e.Adrift item.handle)
    (place : Place) :
    (e.children place).count item.handle = if place = item.place then 1 else 0 := by
  have hrecorded : e.placeOf? item.handle = some item.place := by
    rw [placeOf?, h.find?_of_mem hitem]
    rfl
  have honly : ∀ {other}, item.handle ∈ e.children other → other = item.place := by
    intro other hmem
    exact Option.some.inj ((h.placeOf?_of_mem hmem).symm.trans hrecorded)
  split
  · next hplace =>
      obtain ⟨other, hmem⟩ : ∃ other, item.handle ∈ e.children other := by
        by_contra hnone
        have hlive : (e.find? item.handle).isSome = true := by rw [h.find?_of_mem hitem]; rfl
        exact hadrift ⟨hlive, fun other hmem => hnone ⟨other, hmem⟩⟩
      rw [hplace, ← honly hmem]
      obtain ⟨ts, t, hlist, -, -⟩ := h.mem_children hmem
      rw [h.children hlist] at hmem ⊢
      exact List.count_eq_one_of_mem (hlist.nodup_handles h.nodup) hmem
  · next hplace => exact List.count_eq_zero_of_not_mem fun hmem => hplace (honly hmem)

theorem climbs (h : Depicts e w) (hitem : item ∈ e.live) :
    e.Climbs (fun k => e.placeOf? k = some .top ∨ e.Adrift k) item.handle := by
  obtain ⟨n, hn, hhandle, -⟩ := h.node_of_live hitem
  rw [← hhandle]
  refine forall_allNodes (P := fun n => e.Climbs (fun k => e.placeOf? k = some .top ∨ e.Adrift k)
    n.handle) (fun t ht => .here ?_)
    (fun n hn ih slot c hc => .up (h.placed (.inside hn slot) c hc) ih) n hn
  rcases List.mem_append.mp ht with ht | ht
  · exact Or.inl (h.placed .top t ht)
  · exact Or.inr (h.adrift_of_loose ht)

theorem arranged (h : Depicts e w) : Arranged e where
  handles := h.live_nodup
  fresh := fun item hitem => h.fresh _ (h.live_handles.mem_iff.mp (List.mem_map_of_mem hitem))
  keys := h.keys
  top := lookup_isSome_iff.mpr h.top
  owned := by
    intro place hplace
    refine (h.opened place (lookup_isSome_iff.mp hplace)).imp_right ?_
    rintro ⟨l, hl, slot, hslot, rfl⟩
    obtain ⟨item, hitem, rfl⟩ := List.mem_map.mp (h.labels.mem_iff.mpr hl)
    exact ⟨item, hitem, slot, hslot, rfl⟩
  members := by
    intro place k hmem
    obtain ⟨ts, t, hlist, ht, rfl⟩ := h.mem_children hmem
    exact h.find?_isSome_iff.mpr (Woods.handle_mem_handles (hlist.mem_nodes ht))
  standing := fun item hitem hadrift => h.standing hitem hadrift
  climbs := fun item hitem => h.climbs hitem
  selection := fun k hk => h.find?_isSome_iff.mpr (h.selected k hk)

/-- An item that stands in the list that is recorded for it is removed. -/
theorem removed (h : Depicts e w) (hitem : item ∈ e.live)
    (hmem : item.handle ∈ e.children item.place) : ((remove item.handle).run e).1 = .ok () := by
  have hfound := require_of_find? (h.find?_of_mem hitem)
  have hled := ledTo_remove h item.handle
  cases hrun : (remove item.handle).run e with
  | mk outcome after =>
      rw [hrun] at hled
      cases hled with
      | ok _ => rfl
      | error herror => exact absurd hmem (herror.2 item hfound)

/-- Where no tree is loose, everything is in its place. -/
theorem whole (h : Depicts e w) (hloose : w.loose = []) : Whole e := by
  have hstanding : ∀ item ∈ e.live, ∀ place, (e.children place).count item.handle =
      if place = item.place then 1 else 0 :=
    fun item hitem => h.standing hitem (h.not_adrift hloose)
  have hmem : ∀ item ∈ e.live, item.handle ∈ e.children item.place := by
    intro item hitem
    rw [← List.count_pos_iff, hstanding item hitem, if_pos rfl]
    exact Nat.one_pos
  constructor
  · exact hstanding
  · exact fun item hitem => (h.climbs hitem).mono fun k hk => hk.resolve_right (h.not_adrift hloose)
  · exact fun item hitem => location_of_mem (h.find?_of_mem hitem) (hmem item hitem)
  · exact fun item hitem => h.removed hitem (hmem item hitem)
  · rw [h.forest_eq]
    have hlabels : w.labels = allLabels w.roots := by
      rw [Woods.labels, Woods.all, hloose, List.append_nil]
    exact (hlabels ▸ h.labels).symm

end Depicts

/-- What stands nowhere cannot be where it is recorded to stand. -/
theorem Whole.not_adrift (h : Whole e) (k : Nat) : ¬e.Adrift k := by
  rintro ⟨hlive, hadrift⟩
  obtain ⟨item, hitem⟩ := Option.isSome_iff_exists.mp hlive
  have hcount := h.standing item (List.mem_of_find?_eq_some hitem) item.place
  rw [if_pos rfl, handle_of_find? hitem, List.count_eq_zero_of_not_mem (hadrift _)] at hcount
  cases hcount

theorem Depicts.whole_iff (h : Depicts e w) : Whole e ↔ w.loose = [] := by
  refine ⟨fun hwhole => ?_, h.whole⟩
  cases hloose : w.loose with
  | nil => rfl
  | cons t ts =>
      have ht : t ∈ w.loose := hloose ▸ List.mem_cons_self
      exact absurd (h.adrift_of_loose ht) (hwhole.not_adrift t.handle)

theorem add_gives_next (h : Depicts e w) {raw : Json} {parent : Option Int} {slot : Json}
    {position : Position} (hadd : ((add raw parent slot position).run e).1 = .ok k) :
    k = e.next := by
  have hled := ledTo_add h raw parent slot position
  cases hrun : (add raw parent slot position).run e with
  | mk outcome after =>
      rw [hrun] at hadd hled
      subst hadd
      cases hled with
      | ok hok => exact hok.2.2.1

/-- **The tables of an editor agree whatever was done to it, and everything is in its place just
where no change strayed.**  What is read off is the trees that are followed down from the top level,
and a handle that was given is not given again. -/
theorem arranged_after (h : Opened e₀) (edits : List Edit) :
    Arranged (after edits e₀) ∧
      (Whole (after edits e₀) ↔ ¬Strayed e₀ edits) ∧
      (after edits e₀).toJson = .obj [("version", e₀.version),
        ("items", .arr (allToJson (after edits e₀).forest))] ∧
      (∀ more, Later (after edits e₀) (after more (after edits e₀))) ∧
      ∀ raw parent slot position k,
        ((add raw parent slot position).run (after edits e₀)).1 = .ok k →
          k = (after edits e₀).next := by
  obtain ⟨w, hw, hloose⟩ := h.depicts_after edits
  refine ⟨hw.arranged, hw.whole_iff.trans hloose, ?_, fun more => later_after more (Later.refl _),
    fun raw parent slot position k => add_gives_next hw⟩
  rw [hw.toJson_eq, hw.forest_eq, (later_after edits (Later.refl e₀)).version]

/-- An item is added with what it holds, another is refused halfway, then an item is moved into
itself in vain, one is moved to another slot, the attributes of one are refused halfway, and one
that holds the selection is removed. -/
theorem arranged_after_refusals :
    let edits : List Edit :=
      [.add (.obj [("type", .str "block"), ("items", .arr [.obj [("type", .str "info")], .int 3,
          .obj [("type", .str "yesno"), ("yes", .arr [.obj [("type", .str "info")]])]])])
          none (.str "items") .last,
        .add (.obj [("type", .str "block"), ("items", .int 5)]) none (.str "items") (.at (-100)),
        .move 0 (some 2) (.str "yes") .last,
        .move 3 (some 2) (.str "no") (.at (-1)),
        .update 1 [("text", .str "Note"), ("type", .str "line")],
        .select (some 3),
        .remove 2]
    let e := after edits { version := .int 1 }
    Whole e ∧ e.live.map Live.handle = [0, 1, 4] ∧ e.children .top = [4, 0] ∧ e.selected = none ∧
      e.next = 5 := by
  refine ⟨(arranged_after (.empty (.int 1)) _).2.1.mpr (not_strayed ?_), ?_⟩
  · simp [Edit.Usable, Position.Usable]
  · decide +kernel

/-- An index of more than sixty-four bits leaves an item that is there and stands nowhere: it has no
position, cannot be removed and is not read off. -/
theorem adrift_after_adding :
    let edits : List Edit :=
      [.add (.obj [("type", .str "info")]) none (.str "items") (.at (2 ^ 63))]
    let e := after edits { version := .int 1 }
    Opened { version := .int 1 } ∧ ¬Whole e ∧ e.contains 0 = true ∧
      (∀ place, 0 ∉ e.children place) ∧
      e.location 0 = .error (.misfit .content) ∧
      ((remove 0).run e).1 = .error (.misfit .content) ∧
      e.toJson = .obj [("version", .int 1), ("items", .arr [])] := by
  intro edits e
  have hnowhere : ∀ place, 0 ∉ e.children place := by
    intro place
    show 0 ∉ (List.lookup place [(Place.top, ([] : List Nat))]).getD []
    rw [List.lookup_cons]
    split <;> simp
  exact ⟨.empty _, fun hwhole => hwhole.not_adrift 0 ⟨rfl, hnowhere⟩, rfl, hnowhere, rfl, rfl, rfl⟩

end Questionnaire.Editor
