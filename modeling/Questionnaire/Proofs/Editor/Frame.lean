/-
What a change leaves alone.

A change of an editor is about some items; the others keep their attributes, the lists they stand in
and their order there, `SameBut`.  In the woods a change is an exchange of trees between a list and
those that stand nowhere, so it is enough to say what an exchange leaves of the order in every list,
`filter_childrenAt_exchange`, and what a tree that stands nowhere adds, `filter_childrenAt_aside`.
-/
import Questionnaire.Proofs.Editor.Editing

namespace Questionnaire.Editor

open Questionnaire.Editor.Tree

/-! ### The order in every list -/

namespace Woods

/-- The handles in the list at a place, none where there is no list. -/
def childrenAt (w : Woods) (place : Place) : List Nat :=
  match place with
  | ⟨none, .items⟩ => w.roots.map handle
  | ⟨none, _⟩ => []
  | ⟨some p, slot⟩ =>
    ((w.nodes.find? (·.handle = p)).map fun n => (n.inside slot).map handle).getD []

variable {w w' : Woods} {place other : Place} {ts us vs : List Tree} {t : Tree} {k : Nat}

theorem childrenAt_eq (hnodup : w.handles.Nodup) (hlist : w.ListAt place ts) :
    w.childrenAt place = ts.map handle := by
  cases hlist with
  | top => rfl
  | @inside n hn slot =>
      have hfound : w.nodes.find? (·.handle = n.handle) = some n := find?_of_nodup hnodup hn
      rw [childrenAt, hfound]
      rfl

theorem exists_listAt_of_mem (hmem : k ∈ w.childrenAt place) : ∃ ts, w.ListAt place ts := by
  unfold childrenAt at hmem
  split at hmem
  · exact ⟨_, .top⟩
  · cases hmem
  · next p slot =>
      cases hfound : w.nodes.find? (·.handle = p) with
      | none =>
          rw [hfound] at hmem
          cases hmem
      | some n =>
          have hhandle := List.find?_some hfound
          rw [← of_decide_eq_true hhandle]
          exact ⟨_, .inside (List.mem_of_find?_eq_some hfound) slot⟩

theorem childrenAt_eq_nil (hnone : ¬∃ ts, w.ListAt place ts) : w.childrenAt place = [] :=
  List.eq_nil_iff_forall_not_mem.mpr fun _ hmem => hnone (exists_listAt_of_mem hmem)

/-- There are lists at the top level and for whatever is there. -/
theorem exists_listAt_iff :
    (∃ ts, w.ListAt place ts) ↔ place = .top ∨ ∃ p, place.parent = some p ∧ p ∈ w.handles := by
  constructor
  · rintro ⟨ts, hlist⟩
    cases hlist with
    | top => exact Or.inl rfl
    | inside hn slot => exact Or.inr ⟨_, rfl, handle_mem_handles hn⟩
  · rintro (rfl | ⟨p, hparent, hp⟩)
    · exact ⟨_, .top⟩
    · obtain ⟨parent, slot⟩ := place
      obtain rfl : parent = some p := hparent
      obtain ⟨n, hn, rfl⟩ := exists_node hp
      exact ⟨_, .inside hn slot⟩

/-- An exchange leaves the order of whatever keeps its order in the list that is changed. -/
theorem filter_childrenAt_exchange {f : List Tree → List Tree}
    (hnodup : (w.aside us).handles.Nodup) (hlist : w.ListAt place ts)
    (hperm : (f ts ++ vs).Perm (ts ++ us)) {p : Nat → Bool}
    (hsame : ((f ts).map handle).filter p = (ts.map handle).filter p) (other : Place) :
    (((w.edit place f).aside vs).childrenAt other).filter p =
      ((w.aside us).childrenAt other).filter p := by
  have hhandles := handles_perm (perm_exchange (nodup_of_aside hnodup) hlist hperm)
  have hnodup' := hhandles.nodup_iff.mpr hnodup
  by_cases hthere : ∃ vs', ((w.edit place f).aside vs).ListAt other vs'
  · obtain ⟨vs', hvs⟩ := hthere
    rw [childrenAt_eq hnodup' hvs]
    rcases listAt_exchange hnodup hlist hperm hvs with ⟨rfl, rfl⟩ | ⟨-, us', hus, heq⟩
    · rw [childrenAt_eq hnodup (hlist.aside us), hsame]
    · rw [childrenAt_eq hnodup hus, heq]
  · have hthere' := hthere
    simp only [exists_listAt_iff, hhandles.mem_iff] at hthere'
    rw [← exists_listAt_iff] at hthere'
    rw [childrenAt_eq_nil hthere, childrenAt_eq_nil hthere']

theorem mem_labels_aside {l : Nat × Entries Json} (hl : l.1 ∉ t.handles) :
    l ∈ (w.aside [t]).labels ↔ l ∈ w.labels := by
  rw [labels_aside, List.mem_append]
  refine or_iff_left fun hmem => hl ?_
  have hfst := List.mem_map_of_mem (f := Prod.fst) hmem
  rwa [map_fst_allLabels, allHandles_singleton] at hfst

/-- A tree that stands nowhere adds only lists of what is in it. -/
theorem filter_childrenAt_aside (hnodup : (w.aside [t]).handles.Nodup) (place : Place) :
    ((w.aside [t]).childrenAt place).filter (· ∉ t.handles) =
      (w.childrenAt place).filter (· ∉ t.handles) := by
  have hsplit := hnodup
  rw [handles_aside, allHandles_singleton] at hsplit
  by_cases hthere : ∃ ts, (w.aside [t]).ListAt place ts
  · obtain ⟨ts, hts⟩ := hthere
    rw [childrenAt_eq hnodup hts]
    rcases listAt_of_aside hts with hts | ⟨n, hn, slot, rfl, rfl⟩
    · rw [childrenAt_eq hsplit.of_append_left hts]
    -- A list inside the tree is new, but holds only what is left out of the comparison.
    · have hmem : ∀ k ∈ n.handles, k ∈ t.handles := by
        obtain ⟨u, hu, hn⟩ := mem_allNodes.mp hn
        rw [List.mem_singleton.mp hu] at hn
        exact handles_subset_of_mem_nodes hn
      have hout : ¬∃ ts, w.ListAt ⟨some n.handle, slot⟩ ts := by
        rw [exists_listAt_iff]
        rintro (hplace | ⟨p, hp, hother⟩)
        · cases hplace
        · obtain rfl : n.handle = p := Option.some.inj hp
          exact List.disjoint_of_nodup_append hsplit hother (hmem _ (Tree.handle_mem_handles n))
      rw [childrenAt_eq_nil hout, List.filter_nil, List.filter_eq_nil_iff]
      intro k hk
      simpa using hmem k (allHandles_subset_handles n slot k (map_handle_subset _ k hk))
  · have hthere' : ¬∃ ts, w.ListAt place ts := fun ⟨ts, hts⟩ => hthere ⟨ts, hts.aside [t]⟩
    rw [childrenAt_eq_nil hthere, childrenAt_eq_nil hthere']

theorem childrenAt_amend (hnodup : w.handles.Nodup) (k : Nat) (f : Entries Json → Entries Json)
    (place : Place) : (w.amend k f).childrenAt place = w.childrenAt place := by
  have hnodup' : (w.amend k f).handles.Nodup := by rwa [handles_amend]
  by_cases hthere : ∃ ts, (w.amend k f).ListAt place ts
  · obtain ⟨ts, hts⟩ := hthere
    obtain ⟨us, hus, heq⟩ := listAt_amend hts
    rw [childrenAt_eq hnodup' hts, childrenAt_eq hnodup hus, heq]
  · have hthere' := hthere
    rw [exists_listAt_iff, handles_amend, ← exists_listAt_iff] at hthere'
    rw [childrenAt_eq_nil hthere, childrenAt_eq_nil hthere']

theorem mem_labels_amend {l : Nat × Entries Json} (hl : l.1 ≠ k) (f : Entries Json → Entries Json) :
    l ∈ (w.amend k f).labels ↔ l ∈ w.labels := by
  rw [labels_amend, List.mem_map]
  constructor
  · rintro ⟨m, hm, rfl⟩
    have hne : m.1 ≠ k := by
      intro heq
      rw [relabel, if_pos heq] at hl
      exact hl heq
    rwa [relabel, if_neg hne]
  · exact fun hmem => ⟨l, hmem, if_neg hl⟩

end Woods

/-! ### Editors -/

/-- Two editors have the same items but for some, with the same attributes but for some, in the same
lists and in the same order. -/
structure SameBut (changed moved : List Nat) (e e' : Editor) : Prop where
  attributes : ∀ k ∉ changed, e'.attributes? k = e.attributes? k
  order : ∀ place, (e'.children place).filter (· ∉ moved) = (e.children place).filter (· ∉ moved)

variable {e e' : Editor} {w w' : Woods} {place : Place} {ts us : List Tree} {t : Tree} {k : Nat}
  {position : Position} {changed moved : List Nat}

namespace Depicts

theorem children_eq (h : Depicts e w) (place : Place) : e.children place = w.childrenAt place := by
  by_cases hthere : ∃ ts, w.ListAt place ts
  · obtain ⟨ts, hts⟩ := hthere
    rw [h.children hts, Woods.childrenAt_eq h.nodup hts]
  · rw [Woods.childrenAt_eq_nil hthere, List.eq_nil_iff_forall_not_mem]
    intro k hmem
    obtain ⟨ts, t, hts, -, -⟩ := h.mem_children hmem
    exact hthere ⟨ts, hts⟩

theorem attributes?_eq_some_iff (h : Depicts e w) {attributes : Entries Json} :
    e.attributes? k = some attributes ↔ (k, attributes) ∈ w.labels := by
  constructor
  · intro hfound
    obtain ⟨item, hitem, rfl⟩ := Option.map_eq_some_iff.mp hfound
    rw [← handle_of_find? hitem]
    exact h.labels.mem_iff.mp (List.mem_map_of_mem (List.mem_of_find?_eq_some hitem))
  · intro hmem
    obtain ⟨n, hn, hlabel⟩ := List.mem_map.mp hmem
    obtain ⟨rfl, rfl⟩ := Prod.mk.inj hlabel
    exact h.attributes? hn

theorem sameBut (h : Depicts e w) (h' : Depicts e' w')
    (hlabels : ∀ l, l.1 ∉ changed → (l ∈ w'.labels ↔ l ∈ w.labels))
    (horder : ∀ place, (w'.childrenAt place).filter (· ∉ moved) =
      (w.childrenAt place).filter (· ∉ moved)) : SameBut changed moved e e' where
  attributes := by
    intro k hk
    refine Option.ext fun attributes => ?_
    rw [h.attributes?_eq_some_iff, h'.attributes?_eq_some_iff]
    exact hlabels (k, attributes) hk
  order := fun place => by rw [h.children_eq, h'.children_eq, horder]

/-! ### One operation after another -/

theorem filter_map_handle_put (husable : position.Usable) (t : Tree) (ts : List Tree)
    {out : List Nat} (ht : t.handle ∈ out) :
    ((put position t ts).map handle).filter (· ∉ out) = (ts.map handle).filter (· ∉ out) := by
  obtain ⟨offset, hoffset⟩ := Position.offset_of_usable husable ts.length
  rw [put_of_offset hoffset, List.map_append, List.map_cons, List.filter_append, List.filter_cons,
    if_neg (by simpa using ht), ← List.filter_append, ← List.map_append, List.take_append_drop]

theorem filter_map_handle_without (ts : List Tree) {k : Nat} {out : List Nat} (hk : k ∈ out) :
    ((without k ts).map handle).filter (· ∉ out) = (ts.map handle).filter (· ∉ out) := by
  rw [without, List.filter_map, List.filter_map, List.filter_filter]
  refine congrArg (List.map handle) (List.filter_congr fun t _ => ?_)
  by_cases hout : t.handle ∈ out
  · simp [hout]
  · have hne : t.handle ≠ k := fun heq => hout (heq ▸ hk)
    simp [hout, hne]

/-- Adding a tree leaves everything else. -/
theorem sameBut_put (h : Depicts e w) (h' : Depicts e' (w.edit place (put position t)))
    (husable : position.Usable) (hopen : w.Open place) : SameBut t.handles t.handles e e' := by
  obtain ⟨ts, hlist⟩ := hopen.listAt
  have hperm := perm_put husable t ts
  rw [← List.append_nil (put position t ts)] at hperm
  have hlabels := Woods.perm_exchange h.nodup hlist hperm
  rw [Woods.aside_nil] at hlabels
  have hnodup := (Woods.handles_perm hlabels).nodup_iff.mp h'.nodup
  refine h.sameBut h' (fun l hl => ?_) fun other => ?_
  · rw [hlabels.mem_iff, Woods.mem_labels_aside hl]
  · have hsame := filter_map_handle_put husable t ts (handle_mem_handles t)
    have hexchange := Woods.filter_childrenAt_exchange hnodup hlist hperm hsame other
    rw [Woods.aside_nil] at hexchange
    rw [hexchange, Woods.filter_childrenAt_aside hnodup]

/-- Removing a tree leaves everything else. -/
theorem sameBut_without (h : Depicts e w) (h' : Depicts e' (w.edit place (without t.handle)))
    (hlist : w.ListAt place ts) (ht : t ∈ ts) : SameBut t.handles t.handles e e' := by
  have hperm := hlist.perm_without h.nodup ht
  have hlabels := Woods.perm_exchange h.nodup hlist hperm
  rw [Woods.aside_nil] at hlabels
  have hnodup := (Woods.handles_perm hlabels).nodup_iff.mpr h.nodup
  refine h.sameBut h' (fun l hl => ?_) fun other => ?_
  · rw [← hlabels.mem_iff, Woods.mem_labels_aside hl]
  · have hsame := filter_map_handle_without ts (handle_mem_handles t)
    have hexchange := Woods.filter_childrenAt_exchange
      (by rw [Woods.aside_nil]; exact h.nodup) hlist hperm hsame other
    rw [Woods.aside_nil] at hexchange
    rw [← hexchange, Woods.filter_childrenAt_aside hnodup]

/-- Moving a tree leaves everything else, and what is in the tree stays as it is. -/
theorem sameBut_moved {other : Place} (h : Depicts e w)
    (h' : Depicts e' ((w.edit place (without t.handle)).edit other (put position t)))
    (hlist : w.ListAt place ts) (ht : t ∈ ts) (husable : position.Usable)
    (hopen : (w.edit place (without t.handle)).Open other) : SameBut [] [t.handle] e e' := by
  obtain ⟨us, hlist'⟩ := hopen.listAt
  have hout : t.handle ∈ [t.handle] := List.mem_singleton_self _
  have hperm := hlist.perm_without h.nodup ht
  have hlabels := Woods.perm_exchange h.nodup hlist hperm
  rw [Woods.aside_nil] at hlabels
  have hnodup := (Woods.handles_perm hlabels).nodup_iff.mpr h.nodup
  have hperm' := perm_put husable t us
  rw [← List.append_nil (put position t us)] at hperm'
  have hlabels' := Woods.perm_exchange (Woods.nodup_of_aside hnodup) hlist' hperm'
  rw [Woods.aside_nil] at hlabels'
  refine h.sameBut h' (fun l _ => (hlabels'.trans hlabels).mem_iff) fun place' => ?_
  have htaken := Woods.filter_childrenAt_exchange (by rw [Woods.aside_nil]; exact h.nodup) hlist
    hperm (filter_map_handle_without ts hout) place'
  have hput := Woods.filter_childrenAt_exchange hnodup hlist' hperm'
    (filter_map_handle_put husable t us hout) place'
  rw [Woods.aside_nil] at htaken hput
  rw [hput, htaken]

/-- Changing attributes leaves everything else. -/
theorem sameBut_amend {f : Entries Json → Entries Json} (h : Depicts e w)
    (h' : Depicts e' (w.amend k f)) : SameBut [k] [] e e' := by
  refine h.sameBut h' (fun l hl => Woods.mem_labels_amend ?_ f) fun place => ?_
  · simpa using hl
  · rw [Woods.childrenAt_amend h.nodup]

end Depicts

end Questionnaire.Editor
