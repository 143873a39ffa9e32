/-
An editor as woods.

The editor keeps three tables: the attributes and the place of every item, and the handles in
every list.  `Depicts` says that they are the tables of some woods: what is live is what the nodes
are labelled with, each list holds the handles of the trees that stand at its place, and every
tree in a list is recorded to stand there.  Everything that the editor does to its tables is one
of a few changes of the woods: recording a leaf that stands nowhere, `record`, exchanging trees
between a list and those that stand nowhere, `exchange`, dropping a tree that stands nowhere,
`discard`, and changing the attributes of a node, `amend`.
-/
import Questionnaire.Proofs.Editor.Opening
import Questionnaire.Proofs.Editor.Value
import Questionnaire.Proofs.Keyed

namespace Questionnaire.Editor

open Questionnaire.Editor.Tree

def Live.label (item : Live) : Nat × Entries Json := (item.handle, item.attributes)

/-- The place that is recorded for a handle. -/
def placeOf? (e : Editor) (handle : Nat) : Option Place := (e.find? handle).map Live.place

/-- The tables of the editor are those of the woods. -/
structure Depicts (e : Editor) (w : Woods) : Prop where
  labels : (e.live.map Live.label).Perm w.labels
  nodup : w.handles.Nodup
  fresh : ∀ h ∈ w.handles, h < e.next
  children : ∀ {place ts}, w.ListAt place ts → e.children place = ts.map handle
  placed : ∀ {place ts}, w.ListAt place ts → ∀ t ∈ ts, e.placeOf? t.handle = some place
  top : Place.top ∈ e.lists.map Prod.fst
  keys : (e.lists.map Prod.fst).Nodup
  /-- No list belongs to what is not there. -/
  opened : ∀ place ∈ e.lists.map Prod.fst, w.Open place
  tidy : ∀ l ∈ w.labels, Slot.Tidy l.2
  selected : ∀ h, e.selected = some h → h ∈ w.handles

variable {e e' : Editor} {w w' : Woods} {place : Place} {ts us vs : List Tree} {t n : Tree}
  {item : Live}

/-! ### Tables after a change -/

/-- The places that have lists after one was written. -/
theorem map_fst_setList (lists : List (Place × List Nat)) (place : Place) (handles : List Nat) :
    (setList lists place handles).map Prod.fst =
      if place ∈ lists.map Prod.fst then lists.map Prod.fst else lists.map Prod.fst ++ [place] := by
  induction lists with
  | nil => rfl
  | cons l lists ih =>
      obtain ⟨p, hs⟩ := l
      rw [setList]
      by_cases hp : p = place
      · simp [hp]
      · rw [if_neg hp, List.map_cons, ih]
        by_cases hmem : place ∈ lists.map Prod.fst
        · rw [if_pos hmem, if_pos (by simpa using Or.inr hmem)]
          rfl
        · rw [if_neg hmem, if_neg (by simpa [Ne.symm hp] using hmem)]
          rfl

theorem mem_keys_putList {other : Place} (e : Editor) (place : Place) (handles : List Nat) :
    other ∈ (e.putList place handles).lists.map Prod.fst ↔
      other ∈ e.lists.map Prod.fst ∨ other = place := by
  show other ∈ (setList e.lists place handles).map Prod.fst ↔ _
  rw [map_fst_setList]
  split
  · next hmem => exact ⟨Or.inl, fun h => h.elim id fun heq => heq ▸ hmem⟩
  · rw [List.mem_append, List.mem_singleton]

theorem nodup_keys_putList (h : (e.lists.map Prod.fst).Nodup) (place : Place) (handles : List Nat) :
    ((e.putList place handles).lists.map Prod.fst).Nodup := by
  show ((setList e.lists place handles).map Prod.fst).Nodup
  rw [map_fst_setList]
  split
  · exact h
  · next hout => exact h.append (List.nodup_singleton _) (by simpa using hout)

theorem handle_of_find? {k : Nat} (h : e.find? k = some item) : item.handle = k := by
  have hfound := List.find?_some h
  exact of_decide_eq_true hfound

theorem find?_modifyLive (e : Editor) (k : Nat) {f : Live → Live}
    (hf : ∀ item, (f item).handle = item.handle) (j : Nat) :
    (e.modifyLive k f).find? j =
      (e.find? j).map fun item => if item.handle = k then f item else item := by
  show (e.live.map fun item => if item.handle = k then f item else item).find? (·.handle = j) = _
  rw [List.find?_map, Editor.find?]
  have hsame : ((fun item : Live => decide (item.handle = j)) ∘
      fun item => if item.handle = k then f item else item) =
      fun item => decide (item.handle = j) := by
    funext item
    show decide ((if item.handle = k then f item else item).handle = j) = decide (item.handle = j)
    split
    · rw [hf]
    · rfl
  rw [hsame]

theorem placeOf?_amended (e : Editor) (k : Nat) (f : Entries Json → Entries Json) (j : Nat) :
    (e.modifyLive k fun item => { item with attributes := f item.attributes }).placeOf? j =
      e.placeOf? j := by
  have hfind := find?_modifyLive e k
    (f := fun item => { item with attributes := f item.attributes }) (fun _ => rfl) j
  rw [placeOf?, hfind, Option.map_map, placeOf?]
  refine congrFun (congrArg Option.map (funext fun item => ?_)) (e.find? j)
  show (if item.handle = k then { item with attributes := f item.attributes } else item).place = _
  split <;> rfl

theorem list?_drop (e : Editor) (handles : List Nat) (place : Place) :
    (e.drop handles).list? place =
      if place.parent.any handles.contains then none else e.list? place := by
  show (e.lists.filter fun l => !l.1.parent.any handles.contains).lookup place =
    if place.parent.any handles.contains then none else e.lists.lookup place
  induction e.lists with
  | nil => simp
  | cons l lists ih =>
      obtain ⟨p, hs⟩ := l
      rw [List.filter_cons, lookup_cons_place]
      by_cases hp : place = p
      · subst hp
        cases hout : place.parent.any handles.contains with
        | true => simp [hout, ih]
        | false => simp
      · cases hout : p.parent.any handles.contains with
        | true => simp [hp, ih]
        | false => simp [hp, ih, lookup_cons_place]

theorem find?_drop (e : Editor) (handles : List Nat) (k : Nat) :
    (e.drop handles).find? k = if handles.contains k then none else e.find? k := by
  show (e.live.filter fun item => !handles.contains item.handle).find? (·.handle = k) =
    if handles.contains k then none else e.live.find? (·.handle = k)
  induction e.live with
  | nil => simp
  | cons item live ih =>
      rw [List.filter_cons]
      cases hout : handles.contains item.handle with
      | true =>
          simp only [Bool.not_true, Bool.false_eq_true, if_false, ih, List.find?_cons]
          by_cases hk : item.handle = k
          · rw [← hk, if_pos hout, if_pos hout]
          · rw [decide_eq_false hk]
      | false =>
          simp only [Bool.not_false, if_true, ih, List.find?_cons]
          by_cases hk : item.handle = k
          · rw [← hk, hout, decide_eq_true rfl]
            rfl
          · rw [decide_eq_false hk]

/-- What is in a list is in a list that is there. -/
theorem exists_list?_of_mem {k : Nat} (hmem : k ∈ e.children place) :
    ∃ handles, e.list? place = some handles ∧ k ∈ handles := by
  have hchildren : e.children place = (e.list? place).getD [] := rfl
  cases hlist : e.list? place with
  | none =>
      rw [hchildren, hlist] at hmem
      cases hmem
  | some handles =>
      rw [hchildren, hlist] at hmem
      exact ⟨handles, rfl, hmem⟩

namespace Depicts

/-! ### Looking -/

theorem live_handles (h : Depicts e w) : (e.live.map Live.handle).Perm w.handles := by
  have hperm := h.labels.map Prod.fst
  rwa [List.map_map, Woods.map_fst_labels] at hperm

theorem live_nodup (h : Depicts e w) : (e.live.map Live.handle).Nodup :=
  h.live_handles.nodup_iff.mpr h.nodup

/-- An item that is live is found by its handle. -/
theorem find?_of_mem (h : Depicts e w) (hitem : item ∈ e.live) :
    e.find? item.handle = some item :=
  find?_of_nodup h.live_nodup hitem

/-- An item is live just if it is a node, with the attributes of the node. -/
theorem live_of_node (h : Depicts e w) (hn : n ∈ w.nodes) :
    ∃ item ∈ e.live, item.handle = n.handle ∧ item.attributes = n.attributes := by
  have hlabel := h.labels.mem_iff.mpr (Woods.label_mem_labels hn)
  obtain ⟨item, hitem, heq⟩ := List.mem_map.mp hlabel
  obtain ⟨hhandle, hattributes⟩ := Prod.mk.inj heq
  exact ⟨item, hitem, hhandle, hattributes⟩

theorem node_of_live (h : Depicts e w) (hitem : item ∈ e.live) :
    ∃ n ∈ w.nodes, n.handle = item.handle ∧ n.attributes = item.attributes := by
  have hlabel := h.labels.mem_iff.mp (List.mem_map_of_mem hitem)
  obtain ⟨n, hn, heq⟩ := List.mem_map.mp hlabel
  obtain ⟨hhandle, hattributes⟩ := Prod.mk.inj heq
  exact ⟨n, hn, hhandle, hattributes⟩

theorem attributes? (h : Depicts e w) (hn : n ∈ w.nodes) :
    e.attributes? n.handle = some n.attributes := by
  obtain ⟨item, hitem, hhandle, hattributes⟩ := h.live_of_node hn
  rw [Editor.attributes?, ← hhandle, h.find?_of_mem hitem, ← hattributes]
  rfl

theorem find?_isSome_iff (h : Depicts e w) {k : Nat} :
    (e.find? k).isSome = true ↔ k ∈ w.handles := by
  rw [← h.live_handles.mem_iff, Editor.find?, List.find?_isSome, List.mem_map]
  simp

/-- A list that is there belongs to the top level or to a slot of a node. -/
theorem listAt_of_list? (h : Depicts e w) {handles : List Nat}
    (hlist : e.list? place = some handles) :
    w.Open place ∧ ∃ ts, w.ListAt place ts ∧ handles = ts.map handle := by
  have hkey : place ∈ e.lists.map Prod.fst :=
    lookup_isSome_iff.mp (Option.isSome_iff_exists.mpr ⟨handles, hlist⟩)
  have hopen := h.opened place hkey
  obtain ⟨ts, hts⟩ := hopen.listAt
  have hchildren := h.children hts
  rw [Editor.children, hlist, Option.getD_some] at hchildren
  exact ⟨hopen, ts, hts, hchildren⟩

/-- What is in a list is the top of a tree that stands there. -/
theorem mem_children (h : Depicts e w) {k : Nat} (hmem : k ∈ e.children place) :
    ∃ ts t, w.ListAt place ts ∧ t ∈ ts ∧ t.handle = k := by
  obtain ⟨handles, hlist, hmem⟩ := exists_list?_of_mem hmem
  obtain ⟨-, ts, hts, rfl⟩ := h.listAt_of_list? hlist
  obtain ⟨t, ht, hhandle⟩ := List.mem_map.mp hmem
  exact ⟨ts, t, hts, ht, hhandle⟩

/-- A node holds nothing in a slot that its type does not have. -/
theorem inside_eq_nil (h : Depicts e w) (hn : n ∈ w.nodes) (slot : Slot)
    (hslot : slot ∉ Slot.ofAttributes n.attributes) : n.inside slot = [] := by
  have hchildren := h.children (.inside hn slot)
  cases hlist : e.list? ⟨some n.handle, slot⟩ with
  | none =>
      rw [Editor.children, hlist, Option.getD_none] at hchildren
      exact List.map_eq_nil_iff.mp hchildren.symm
  | some handles =>
      obtain ⟨hopen, -⟩ := h.listAt_of_list? hlist
      rcases hopen with htop | ⟨l, hl, slot', hslot', heq⟩
      · cases htop
      · obtain ⟨m, hm, rfl⟩ := List.mem_map.mp hl
        obtain ⟨hhandle, rfl⟩ := Place.mk.inj heq
        rw [eq_of_handle_eq h.nodup hn hm (Option.some.inj hhandle)] at hslot
        exact absurd hslot' hslot

/-! ### What does not show -/

/-- What the editor shows besides its tables does not matter, nor handles that were used up. -/
theorem of_tables (h : Depicts e w) (hlive : e'.live = e.live) (hlists : e'.lists = e.lists)
    (hnext : e.next ≤ e'.next) (hselected : ∀ k, e'.selected = some k → k ∈ w.handles) :
    Depicts e' w := by
  obtain ⟨version, selected, dirty, live, lists, next⟩ := e'
  cases hlive
  cases hlists
  exact { h with
    fresh := fun k hk => Nat.lt_of_lt_of_le (h.fresh k hk) hnext
    selected := hselected }

/-! ### Trees exchanged between a list and those that stand nowhere -/

/-- The list at a place is written anew, out of the trees that stood there and those that stood
nowhere. -/
theorem exchange (h : Depicts e (w.aside us)) (hlist : w.ListAt place ts)
    (hopen : (w.aside us).Open place) {f : List Tree → List Tree}
    (hperm : (f ts ++ vs).Perm (ts ++ us))
    (hplaced : ∀ t ∈ f ts, e.placeOf? t.handle = some place) :
    Depicts (e.putList place ((f ts).map handle)) ((w.edit place f).aside vs) := by
  have hnodup := Woods.nodup_of_aside h.nodup
  have hlabels := Woods.perm_exchange hnodup hlist hperm
  have hhandles := Woods.handles_perm hlabels
  -- Every list but the one that is written keeps its handles, though nodes in it may have changed.
  have hlists := fun {other vs'} (hother : ((w.edit place f).aside vs).ListAt other vs') =>
    Woods.listAt_exchange h.nodup hlist hperm hother
  constructor
  case labels => exact h.labels.trans hlabels.symm
  case nodup => exact hhandles.nodup_iff.mpr h.nodup
  case fresh => exact fun k hk => h.fresh k (hhandles.mem_iff.mp hk)
  case children =>
    intro other vs' hother
    rw [children_putList]
    rcases hlists hother with ⟨rfl, rfl⟩ | ⟨hne, us', hus, heq⟩
    · rw [if_pos rfl]
    · rw [if_neg hne, h.children hus, heq]
  case placed =>
    intro other vs' hother t ht
    rcases hlists hother with ⟨rfl, rfl⟩ | ⟨hne, us', hus, heq⟩
    · exact hplaced t ht
    · have hmem : t.handle ∈ us'.map handle := heq ▸ List.mem_map_of_mem ht
      obtain ⟨u, hu, hhandle⟩ := List.mem_map.mp hmem
      rw [← hhandle]
      exact h.placed hus u hu
  case top => exact (mem_keys_putList e place _).mpr (Or.inl h.top)
  case keys => exact nodup_keys_putList h.keys place _
  case opened =>
    intro other hother
    refine Woods.Open.mono ?_ fun l hl => hlabels.mem_iff.mpr hl
    rcases (mem_keys_putList e place _).mp hother with hmem | rfl
    · exact h.opened other hmem
    · exact hopen
  case tidy => exact fun l hl => h.tidy l (hlabels.mem_iff.mp hl)
  case selected => exact fun k hk => hhandles.mem_iff.mpr (h.selected k hk)

/-- A list is made where there is none. -/
theorem establish (h : Depicts e w) (hopen : w.Open place) :
    Depicts (e.putList place (e.children place)) w := by
  obtain ⟨ts, hlist⟩ := hopen.listAt
  rw [← Woods.aside_nil w] at h
  have hexchange := h.exchange hlist (by rwa [Woods.aside_nil]) (f := id) (.refl _)
    (h.placed (hlist.aside []))
  rw [h.children (hlist.aside [])]
  rwa [Woods.edit_id, Woods.aside_nil] at hexchange

/-- A tree that stands nowhere is put into a list. -/
theorem enlisted (h : Depicts e (w.aside [t])) (hplace : e.placeOf? t.handle = some place)
    (hopen : w.Open place) {position : Position} {offset : Nat}
    (hoffset : position.offset (e.children place).length = .ok offset) :
    Depicts (e.putList place (insertAt offset t.handle (e.children place)))
      (w.edit place (put position t)) := by
  obtain ⟨ts, hlist⟩ := hopen.listAt
  have hchildren := h.children (hlist.aside [t])
  rw [hchildren, List.length_map] at hoffset
  have hperm := perm_put (Position.usable_of_offset hoffset) t ts
  rw [← List.append_nil (put position t ts)] at hperm
  have hexchange := h.exchange hlist (hopen.aside [t]) hperm fun u hu => by
    have hput := (perm_put (Position.usable_of_offset hoffset) t ts).mem_iff.mp hu
    rcases List.mem_append.mp hput with hu | hu
    · exact h.placed (hlist.aside [t]) u hu
    · rw [List.mem_singleton.mp hu]
      exact hplace
  rwa [hchildren, ← map_handle_put hoffset, ← Woods.aside_nil (w.edit place (put position t))]

/-- A tree is taken out of its list and stands nowhere. -/
theorem delisted (h : Depicts e w) (hlist : w.ListAt place ts) (hopen : w.Open place)
    (ht : t ∈ ts) :
    Depicts (e.putList place ((e.children place).erase t.handle))
      ((w.edit place (without t.handle)).aside [t]) := by
  have hnodup := hlist.nodup_handles h.nodup
  have hchildren := h.children hlist
  have hplaced := h.placed hlist
  have hperm := hlist.perm_without h.nodup ht
  rw [← Woods.aside_nil w] at h hopen
  rw [hchildren, ← map_handle_without hnodup]
  exact h.exchange hlist hopen hperm fun u hu => hplaced u (List.mem_of_mem_filter hu)

/-! ### Recording a leaf -/

/-- What is not there holds nothing. -/
theorem children_eq_nil (h : Depicts e w) {k : Nat} (hk : k ∉ w.handles) (slot : Slot) :
    e.children ⟨some k, slot⟩ = [] := by
  cases hlist : e.list? ⟨some k, slot⟩ with
  | none => rw [Editor.children, hlist, Option.getD_none]
  | some handles =>
      obtain ⟨-, ts, hts, -⟩ := h.listAt_of_list? hlist
      exact absurd (hts.owner_mem rfl) hk

/-- An item is recorded and stands nowhere yet. -/
theorem record (h : Depicts e w) {k : Nat} (hnew : k ∉ w.handles) (hnext : k < e.next)
    {own : Entries Json} (htidy : Slot.Tidy own) (place : Place) :
    Depicts { e with live := e.live ++ [⟨k, own, place⟩] } (w.aside [leaf k own]) := by
  have hlabels : (w.aside [leaf k own]).labels = w.labels ++ [(k, own)] := by
    rw [Woods.labels_aside, allLabels, allNodes_leaf]
    rfl
  have hhandles : (w.aside [leaf k own]).handles = w.handles ++ [k] := by
    rw [← Woods.map_fst_labels, hlabels, List.map_append, Woods.map_fst_labels]
    rfl
  constructor
  case labels =>
    rw [hlabels, List.map_append]
    exact h.labels.append_right _
  case nodup =>
    rw [hhandles]
    exact h.nodup.append (List.nodup_singleton k) (by simpa using hnew)
  case fresh =>
    intro x hx
    rw [hhandles, List.mem_append, List.mem_singleton] at hx
    rcases hx with hx | rfl
    · exact h.fresh x hx
    · exact hnext
  case children =>
    intro other ts hlist
    rcases Woods.listAt_of_aside hlist with hlist | ⟨n, hn, slot, rfl, rfl⟩
    · exact h.children hlist
    · rw [allNodes_leaf, List.mem_singleton] at hn
      subst hn
      exact h.children_eq_nil hnew slot
  case placed =>
    intro other ts hlist t ht
    rcases Woods.listAt_of_aside hlist with hlist | ⟨n, hn, slot, rfl, rfl⟩
    · obtain ⟨item, hfound, hplace⟩ := Option.map_eq_some_iff.mp (h.placed hlist t ht)
      have hfound' : e.live.find? (·.handle = t.handle) = some item := hfound
      rw [placeOf?, Editor.find?, List.find?_append, hfound', ← hplace]
      rfl
    · rw [allNodes_leaf, List.mem_singleton] at hn
      subst hn
      cases ht
  case top => exact h.top
  case keys => exact h.keys
  case opened => exact fun other hother => (h.opened other hother).aside _
  case tidy =>
    intro l hl
    rw [hlabels, List.mem_append, List.mem_singleton] at hl
    rcases hl with hl | rfl
    · exact h.tidy l hl
    · exact htidy
  case selected =>
    intro x hx
    rw [hhandles]
    exact List.mem_append_left _ (h.selected x hx)

/-! ### Dropping a tree that stands nowhere -/

/-- A tree that stands nowhere is dropped, with the lists of what is in it. -/
theorem discard (h : Depicts e (w.aside [t])) : Depicts (e.drop t.handles) w := by
  have hnodup := h.nodup
  have hlabels := h.labels
  rw [Woods.handles_aside, allHandles_singleton] at hnodup
  rw [Woods.labels_aside] at hlabels
  have hkept : ∀ k ∈ w.handles, t.handles.contains k = false := by
    intro k hk
    rw [List.contains_eq_mem, decide_eq_false_iff_not]
    exact fun hkt => List.disjoint_of_nodup_append hnodup hk hkt
  have howner : ∀ {place ts}, w.ListAt place ts → place.parent.any t.handles.contains = false := by
    intro place ts hlist
    cases hparent : place.parent with
    | none => rfl
    | some k => exact hkept k (hlist.owner_mem hparent)
  have hinside : ∀ l ∈ allLabels [t], l.1 ∈ t.handles := by
    intro l hl
    rw [← allHandles_singleton, ← map_fst_allLabels]
    exact List.mem_map_of_mem hl
  constructor
  case labels =>
    show ((e.live.filter ((fun l => !t.handles.contains l.1) ∘ Live.label)).map Live.label).Perm _
    rw [← List.filter_map]
    refine (hlabels.filter _).trans (List.Perm.of_eq ?_)
    rw [List.filter_append, List.filter_eq_self.mpr, List.filter_eq_nil_iff.mpr, List.append_nil]
    · intro l hl
      simpa using hinside l hl
    · intro l hl
      rw [hkept l.1 (Woods.fst_mem_handles hl)]
      rfl
  case nodup => exact hnodup.of_append_left
  case fresh =>
    intro k hk
    refine h.fresh k ?_
    rw [Woods.handles_aside]
    exact List.mem_append_left _ hk
  case children =>
    intro place ts hlist
    rw [Editor.children, list?_drop, howner hlist, if_neg Bool.false_ne_true]
    exact h.children (hlist.aside [t])
  case placed =>
    intro place ts hlist u hu
    have hmem : u.handle ∈ w.handles := Woods.handle_mem_handles (hlist.mem_nodes hu)
    rw [placeOf?, find?_drop, hkept _ hmem, if_neg Bool.false_ne_true]
    exact h.placed (hlist.aside [t]) u hu
  case top =>
    obtain ⟨l, hl, htop⟩ := List.mem_map.mp h.top
    exact List.mem_map.mpr ⟨l, List.mem_filter.mpr ⟨hl, by rw [htop]; rfl⟩, htop⟩
  case keys => exact (List.filter_sublist.map Prod.fst).nodup h.keys
  case opened =>
    intro place hplace
    obtain ⟨l, hl, rfl⟩ := List.mem_map.mp hplace
    obtain ⟨hl, hkeep⟩ := List.mem_filter.mp hl
    rcases h.opened l.1 (List.mem_map_of_mem hl) with htop | ⟨label, hlabel, slot, hslot, hplace⟩
    · exact Or.inl htop
    · rw [Woods.labels_aside, List.mem_append] at hlabel
      rcases hlabel with hlabel | hlabel
      · exact Or.inr ⟨label, hlabel, slot, hslot, hplace⟩
      · rw [hplace] at hkeep
        simp [hinside label hlabel] at hkeep
  case tidy =>
    intro l hl
    refine h.tidy l ?_
    rw [Woods.labels_aside]
    exact List.mem_append_left _ hl
  case selected =>
    intro k hk
    have hselected : e.selected.filter (fun k => !t.handles.contains k) = some k := hk
    obtain ⟨hselected, hkeep⟩ := Option.filter_eq_some_iff.mp hselected
    have hmem := h.selected k hselected
    rw [Woods.handles_aside, allHandles_singleton, List.mem_append] at hmem
    exact hmem.resolve_right (by simpa using hkeep)

/-! ### Changing an item -/

/-- The attributes of an item are changed to others that are tidy and give it the same slots. -/
theorem amend (h : Depicts e w) {k : Nat} {f : Entries Json → Entries Json}
    (hf : ∀ l ∈ w.labels, l.1 = k →
      Slot.Tidy (f l.2) ∧ Slot.ofAttributes (f l.2) = Slot.ofAttributes l.2) :
    Depicts (e.modifyLive k fun item => { item with attributes := f item.attributes })
      (w.amend k f) := by
  have hlabels := Woods.labels_amend w k f
  have hhandles := Woods.handles_amend w k f
  constructor
  case labels =>
    rw [hlabels]
    show ((e.live.map _).map Live.label).Perm _
    have hperm := h.labels.map (relabel k f)
    rw [List.map_map] at hperm ⊢
    refine Eq.subst (motive := fun l => List.Perm l _) (List.map_congr_left fun item _ => ?_) hperm
    show relabel k f item.label =
      Live.label (if item.handle = k then { item with attributes := f item.attributes } else item)
    rw [relabel]
    show (if item.handle = k then _ else _) = _
    split <;> rfl
  case nodup =>
    rw [hhandles]
    exact h.nodup
  case fresh =>
    rw [hhandles]
    exact h.fresh
  case children =>
    intro place ts hlist
    obtain ⟨us, hus, hts⟩ := Woods.listAt_amend hlist
    rw [hts]
    exact h.children hus
  case placed =>
    intro place ts hlist t ht
    obtain ⟨us, hus, hts⟩ := Woods.listAt_amend hlist
    have hmem : t.handle ∈ us.map handle := hts ▸ List.mem_map_of_mem ht
    obtain ⟨u, hu, hhandle⟩ := List.mem_map.mp hmem
    rw [placeOf?_amended, ← hhandle]
    exact h.placed hus u hu
  case top => exact h.top
  case keys => exact h.keys
  case opened =>
    intro place hplace
    rcases h.opened place hplace with htop | ⟨l, hl, slot, hslot, rfl⟩
    · exact Or.inl htop
    · refine Or.inr ⟨relabel k f l, ?_, slot, ?_, ?_⟩
      · rw [hlabels]
        exact List.mem_map_of_mem hl
      · rw [relabel]
        split
        · next hk =>
            rw [(hf l hl hk).2]
            exact hslot
        · exact hslot
      · rw [relabel_fst]
  case tidy =>
    intro l hl
    rw [hlabels] at hl
    obtain ⟨l, hmem, rfl⟩ := List.mem_map.mp hl
    rw [relabel]
    split
    · next hk => exact (hf l hmem hk).1
    · exact h.tidy l hmem
  case selected =>
    rw [hhandles]
    exact h.selected

/-- Where a tree that stands nowhere is recorded to stand does not matter. -/
theorem relocate (h : Depicts e (w.aside [t])) (place : Place) :
    Depicts (e.modifyLive t.handle fun item => { item with place }) (w.aside [t]) ∧
      (e.modifyLive t.handle fun item => { item with place }).placeOf? t.handle = some place := by
  have hfind := find?_modifyLive e t.handle (f := fun item => { item with place }) fun _ => rfl
  constructor
  · refine { h with labels := ?_, placed := ?_ }
    · show ((e.live.map _).map Live.label).Perm _
      rw [List.map_map]
      refine Eq.subst (motive := fun l => List.Perm l _) (List.map_congr_left fun item _ => ?_)
        h.labels
      show item.label = Live.label (if item.handle = t.handle then { item with place } else item)
      split <;> rfl
    · intro other ts hlist u hu
      obtain ⟨item, hfound, hplace⟩ := Option.map_eq_some_iff.mp (h.placed hlist u hu)
      have hhandle : item.handle = u.handle := handle_of_find? hfound
      rw [placeOf?, hfind, hfound, Option.map_some, if_neg]
      · exact congrArg some hplace
      · rw [hhandle]
        intro heq
        have ht : t ∈ (w.aside [t]).loose := List.mem_append_right _ (List.mem_singleton_self t)
        exact Woods.loose_notMem h.nodup ht hlist (heq ▸ List.mem_map_of_mem hu)
  · obtain ⟨item, hitem, hhandle, -⟩ := h.live_of_node (w.mem_nodes_aside t)
    rw [placeOf?, hfind, ← hhandle, h.find?_of_mem hitem, Option.map_some, if_pos rfl]
    rfl

end Depicts

end Questionnaire.Editor
