/-
What a respondent sees of a settled document.

Settling drops a condition that is false or the empty text, since such a value says
nothing.  To a respondent it does say something: nothing meets it, so that its item and
all that stands in the item is never shown.  Once it is dropped nothing hides the item any
more.  That is the only difference.  The same items are mounted, because which branch is
open depends on the answers alone, and every other condition comes out as before.

`seenAs_settled` says so for each item and all answers: it is visible in a document if and
only if it is visible in the settled one and neither its own condition nor that of
anything it stands in is `Mute`.
-/
import Questionnaire.Presentation.Basic
import Questionnaire.Proofs.Document.Settled
import Mathlib.Data.List.Range

namespace Questionnaire

/-! ### Conditions -/

/-- A condition that settling drops although nothing meets it. -/
def Json.Mute (v : Json) : Prop := v = .bool false ∨ v = .str ""

theorem Json.settled_of_not_mute {v : Json} (h : ¬v.Mute) : v.settled = v := by
  rw [Json.Mute, not_or] at h
  exact Json.settled_eq_self.mpr h

/-- A condition is met if and only if it is met after settling and is not mute. -/
theorem Condition.evaluate_iff_settled (v : Json) (answers : Answers) :
    evaluate v answers = true ↔ evaluate v.settled answers = true ∧ ¬v.Mute := by
  by_cases h : v.Mute
  · have hnever : evaluate v answers = false := by
      rcases h with rfl | rfl <;> simp [evaluate, ofJson, splitSlash?, holds]
    simp [h, hnever]
  · simp [h, Json.settled_of_not_mute h]

/-! ### Items by their handles -/

namespace Document

mutual

theorem handles_outlineItem (above : List Nat) (handle : Nat) (item : Item) :
    (outlineItem above handle item).map Node.handle = List.range' handle item.size := by
  cases item with
  | block text cond items =>
      have hitems := handles_outlineItems (handle :: above) (handle + 1) items
      simp only [outlineItem, List.map_cons, hitems, Item.size]
      rw [List.range'_succ]
  | yesNo q yes no =>
      have hyes := handles_outlineItems (handle :: above) (handle + 1) yes
      have hno := handles_outlineItems (handle :: above) (handle + 1 + Item.sizes yes) no
      simp only [outlineItem, List.map_cons, List.map_append, hyes, hno, Item.size]
      rw [List.range'_succ, List.cons_append, List.range'_append_1]
  | info | tip | spacer | line | box | check | radio | radioGroup | checkGroup | unknown => rfl

theorem handles_outlineItems (above : List Nat) (handle : Nat) (items : List Item) :
    (outlineItems above handle items).map Node.handle = List.range' handle (Item.sizes items) := by
  cases items with
  | nil => rfl
  | cons item items =>
      have hitem := handles_outlineItem above handle item
      have hitems := handles_outlineItems above (handle + item.size) items
      simp only [outlineItems, List.map_append, hitem, hitems, Item.sizes]
      rw [List.range'_append_1]

end

/-- The place of a node in the outline is its handle. -/
theorem node?_of_mem {d : Document} {n : Node} (h : n ∈ d.outline) :
    d.node? n.handle = some n := by
  obtain ⟨i, hi, rfl⟩ := List.getElem_of_mem h
  have hhandle : d.outline[i].handle = i := by
    have hmap : d.outline.map Node.handle = List.range' 0 (Item.sizes d.items) :=
      handles_outlineItems [] 0 d.items
    have hget : (d.outline.map Node.handle)[i]? = some d.outline[i].handle := by
      rw [List.getElem?_map, List.getElem?_eq_getElem hi]
      rfl
    rw [hmap] at hget
    obtain ⟨hlt, heq⟩ := List.getElem?_eq_some_iff.mp hget
    rw [List.getElem_range'] at heq
    omega
  rw [hhandle, node?, List.getElem?_eq_getElem hi]

theorem node?_settled (d : Document) (handle : Nat) :
    d.settled.node? handle = (d.node? handle).map Node.settled := by
  rw [node?, node?, outline_settled, List.getElem?_map]

/-- The nodes on the way to a handle: its own, and those of the items it stands in. -/
def way (d : Document) (handle : Nat) : List Node :=
  match d.node? handle with
  | some n => (handle :: n.above).filterMap d.node?
  | none => []

end Document

/-! ### Mounted items -/

namespace Mounted

/-- What a mounted item shows of the document: an item of it, under its handle, and
whether that item's condition is met. -/
structure Shows (nodes : List Document.Node) (answers : Answers) (m : Mounted) : Prop where
  visible : m.visible = Condition.evaluate m.item.cond answers
  node : ∃ n ∈ nodes, n.handle = m.handle ∧ n.item = m.item

theorem Shows.mono {nodes more : List Document.Node} {answers : Answers} {m : Mounted}
    (h : Shows nodes answers m) (hsub : ∀ n ∈ nodes, n ∈ more) : Shows more answers m := by
  obtain ⟨hvisible, n, hn, hsame⟩ := h
  exact ⟨hvisible, n, hsub n hn, hsame⟩

mutual

theorem shows_ofItem (answers : Answers) (above : List Nat) (depth handle : Nat) (item : Item) :
    ∀ m ∈ subtree (ofItem answers depth handle item),
      Shows (Document.outlineItem above handle item) answers m := by
  cases item with
  | block text cond items =>
      have hitems := shows_ofItems answers (handle :: above) (depth + 1) (handle + 1) items
      simp only [ofItem, subtree, Document.outlineItem, List.forall_mem_cons]
      refine ⟨⟨rfl, _, List.mem_cons_self, rfl, rfl⟩, fun m hm => ?_⟩
      exact (hitems m hm).mono fun n => List.mem_cons_of_mem _
  | yesNo q yes no =>
      have hyes := shows_ofItems answers (handle :: above) (depth + 1) (handle + 1) yes
      have hno :=
        shows_ofItems answers (handle :: above) (depth + 1) (handle + 1 + Item.sizes yes) no
      simp only [ofItem, subtree, Document.outlineItem, List.cons_append, List.forall_mem_cons]
      refine ⟨⟨rfl, _, List.mem_cons_self, rfl, rfl⟩, fun m hm => ?_⟩
      -- Only one of the two branches is mounted, if any.
      split at hm
      case h_1 => exact (hyes m hm).mono fun n hn => by simp [hn]
      case h_2 => exact (hno m hm).mono fun n hn => by simp [hn]
      case h_3 => cases hm
  | info | tip | spacer | line | box | check | radio | radioGroup | checkGroup | unknown =>
      intro m hm
      simp only [ofItem, subtree, subtrees, List.mem_singleton] at hm
      subst hm
      exact ⟨rfl, _, List.mem_cons_self, rfl, rfl⟩

theorem shows_ofItems (answers : Answers) (above : List Nat) (depth handle : Nat)
    (items : List Item) :
    ∀ m ∈ subtrees (ofItems answers depth handle items),
      Shows (Document.outlineItems above handle items) answers m := by
  cases items with
  | nil => intro m hm; cases hm
  | cons item items =>
      have hitem := shows_ofItem answers above depth handle item
      have hitems := shows_ofItems answers above depth (handle + item.size) items
      simp only [ofItems, subtrees, Document.outlineItems, List.forall_mem_append]
      exact ⟨fun m hm => (hitem m hm).mono fun n => List.mem_append_left _,
        fun m hm => (hitems m hm).mono fun n => List.mem_append_right _⟩

end

/-- A mounted item as it is told apart by a respondent: its handle, and whether its own
condition hides it. -/
def sign (m : Mounted) : Nat × Bool := (m.handle, m.visible)

/-- The same for the item after settling. -/
def settledSign (answers : Answers) (m : Mounted) : Nat × Bool :=
  (m.handle, Condition.evaluate m.item.cond.settled answers)

mutual

theorem sign_ofItem_settled (answers : Answers) (depth handle : Nat) (item : Item) :
    (subtree (ofItem answers depth handle item.settled)).map sign =
      (subtree (ofItem answers depth handle item)).map (settledSign answers) := by
  cases item with
  | block text cond items =>
      have hitems := sign_ofItems_settled answers (depth + 1) (handle + 1) items
      simp only [Item.settled, ofItem, subtree, List.map_cons, hitems]
      rfl
  | yesNo q yes no =>
      have hyes := sign_ofItems_settled answers (depth + 1) (handle + 1) yes
      have hno := sign_ofItems_settled answers (depth + 1) (handle + 1 + Item.sizes yes) no
      have hbranch : q.settled.branch? answers = q.branch? answers := rfl
      simp only [Item.settled, ofItem, subtree, List.map_cons, hbranch, Item.sizes_allSettled]
      cases q.branch? answers with
      | none => rfl
      | some branch =>
          cases branch with
          | yes => exact congrArg _ hyes
          | no => exact congrArg _ hno
  | info | tip | spacer | line | box | check | radio | radioGroup | checkGroup | unknown => rfl

theorem sign_ofItems_settled (answers : Answers) (depth handle : Nat) (items : List Item) :
    (subtrees (ofItems answers depth handle (Item.allSettled items))).map sign =
      (subtrees (ofItems answers depth handle items)).map (settledSign answers) := by
  cases items with
  | nil => rfl
  | cons item items =>
      have hitem := sign_ofItem_settled answers depth handle item
      have hitems := sign_ofItems_settled answers depth (handle + item.size) items
      simp only [Item.allSettled, ofItems, subtrees, List.map_append, Item.size_settled, hitem,
        hitems]

end

end Mounted

/-! ### What is seen -/

namespace Presentation

/-- The index of a rendered presentation finds what is mounted. -/
theorem find?_render (d : Document) (answers : Answers) (handle : Nat) :
    (render d answers).find? handle =
      (render d answers).mounted.find? (·.handle == handle) := by
  unfold find?
  split
  case isTrue => rfl
  case isFalse hmounted =>
    rw [eq_comm, List.find?_eq_none]
    intro m hm hhandle
    apply hmounted
    rw [isMounted, List.contains_iff_mem]
    exact List.mem_map.mpr ⟨m, hm, by simpa using hhandle⟩

/-- A mounted item that is found by its handle is the item of that node. -/
theorem node?_of_find?_render {d : Document} {answers : Answers} {handle : Nat} {m : Mounted}
    (h : (render d answers).find? handle = some m) :
    m.visible = Condition.evaluate m.item.cond answers ∧
      (d.node? handle).map Document.Node.item = some m.item := by
  rw [find?_render] at h
  obtain ⟨hvisible, n, hn, hhandle, hitem⟩ :=
    Mounted.shows_ofItems answers [] 0 0 d.items m (List.mem_of_find?_eq_some h)
  have hm : m.handle = handle := by simpa using List.find?_some h
  refine ⟨hvisible, ?_⟩
  rw [← hm, ← hhandle, Document.node?_of_mem hn, Option.map_some, hitem]

/-- The item under a handle is mounted with a condition that is met after settling. -/
theorem any_find?_settled (d : Document) (answers : Answers) (handle : Nat) :
    ((render d.settled answers).find? handle).any Mounted.visible =
      ((render d answers).find? handle).any fun m =>
        Condition.evaluate m.item.cond.settled answers := by
  have hsigns := congrArg (List.find? fun s : Nat × Bool => s.1 == handle)
    (Mounted.sign_ofItems_settled answers 0 0 d.items)
  rw [List.find?_map, List.find?_map] at hsigns
  have hany := congrArg (fun s : Option (Nat × Bool) => s.any Prod.snd) hsigns
  simp only [Option.any_map] at hany
  rw [find?_render, find?_render]
  exact hany

/-- An item's own condition does not hide it if and only if it does not after settling and
is not mute. -/
theorem any_find?_iff_settled (d : Document) (answers : Answers) (handle : Nat) :
    ((render d answers).find? handle).any Mounted.visible = true ↔
      ((render d.settled answers).find? handle).any Mounted.visible = true ∧
        ∀ n, d.node? handle = some n → ¬n.item.cond.Mute := by
  rw [any_find?_settled]
  cases hm : (render d answers).find? handle with
  | none => simp
  | some m =>
      obtain ⟨hvisible, hnode⟩ := node?_of_find?_render hm
      obtain ⟨n, hn, hitem⟩ := Option.map_eq_some_iff.mp hnode
      rw [Option.any_some, Option.any_some, hvisible, Condition.evaluate_iff_settled]
      simp [hn, hitem]

theorem index_settled (d : Document) (answers : Answers) :
    (render d.settled answers).index = (render d answers).index := by
  have hsigns := congrArg (List.map Prod.fst) (Mounted.sign_ofItems_settled answers 0 0 d.items)
  rw [List.map_map, List.map_map] at hsigns
  exact hsigns

/-- An item is visible if it and all that it stands in is mounted with a condition that is
met. -/
theorem isVisible_iff {p : Presentation} {handle : Nat} :
    p.isVisible handle = true ↔ ∃ n, p.document.node? handle = some n ∧
      ∀ g ∈ handle :: n.above, (p.find? g).any Mounted.visible = true := by
  unfold isVisible
  split
  case h_1 hnone => simp [hnone]
  case h_2 n hn => simp [hn]

/-- A document is seen as another one with the same items, save that in the other no item is
hidden by a mute condition, neither its own nor that of an item it stands in. -/
structure SeenAs (d e : Document) : Prop where
  mounted : ∀ answers, (render e answers).index = (render d answers).index
  visible : ∀ answers handle, (render d answers).isVisible handle = true ↔
    (render e answers).isVisible handle = true ∧ ∀ n ∈ d.way handle, ¬n.item.cond.Mute

/-- **A settled document shows the same items, and those that a mute condition hid.** -/
theorem seenAs_settled (d : Document) : SeenAs d d.settled := by
  refine ⟨index_settled d, fun answers handle => ?_⟩
  have hnode : (render d.settled answers).document.node? handle =
      ((render d answers).document.node? handle).map Document.Node.settled :=
    Document.node?_settled d handle
  rw [isVisible_iff, isVisible_iff, hnode, Document.way]
  constructor
  · rintro ⟨n, hn, hall⟩
    have hboth := fun g hg => (any_find?_iff_settled d answers g).mp (hall g hg)
    refine ⟨⟨n.settled, by rw [hn]; rfl, fun g hg => (hboth g hg).1⟩, fun k hk => ?_⟩
    rw [show d.node? handle = some n from hn] at hk
    obtain ⟨g, hg, hkey⟩ := List.mem_filterMap.mp hk
    exact (hboth g hg).2 k hkey
  · rintro ⟨⟨k, hk, hall⟩, hmute⟩
    obtain ⟨n, hn, rfl⟩ := Option.map_eq_some_iff.mp hk
    rw [show d.node? handle = some n from hn] at hmute
    refine ⟨n, hn, fun g hg => ?_⟩
    refine (any_find?_iff_settled d answers g).mpr ⟨hall g hg, fun k hkey => ?_⟩
    exact hmute k (List.mem_filterMap.mpr ⟨g, hg, hkey⟩)

end Presentation

end Questionnaire
