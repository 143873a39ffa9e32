/-
What is mounted and what is visible.

Three parts of the program say what a respondent sees.  Mounting goes down the items and
enters the open branch of each yes/no question.  The walk over the visible items leaves out
every hidden item with all that was mounted in it.  The question whether one item is visible
goes up from the item through the handles it stands in.  All three come to one condition on
the items above, which `Tells` states without any of them: what an item stands in is on the
way from it to the top, and each yes/no question there has to have the answer that leads to
it.

The walk is compared with the outline of the document, item by item: it passes exactly the
nodes that are clear of anything closed or hidden.  The way up asks the same of one node
after the other.
-/
import Questionnaire.Presentation.Progress
import Questionnaire.Proofs.Document.Outline
import Questionnaire.Proofs.Presentation.Refresh

namespace Questionnaire

/-! ### The branches above a node -/

/-- An answer opens a branch if and only if it is the branch's name, under an id. -/
theorem Question.branch?_eq_some {q : Question} {answers : Answers} {branch : Branch} :
    q.branch? answers = some branch ↔
      q.id ≠ "" ∧ answers.get? q.id = some (.str branch.name) := by
  unfold Question.branch?
  split
  case isTrue h => simp [h]
  case isFalse h =>
    unfold Branch.ofAnswer?
    split
    case h_1 heq => rw [heq]; cases branch <;> simp [h, Branch.name]
    case h_2 heq => rw [heq]; cases branch <;> simp [h, Branch.name]
    case h_3 hyes hno =>
      have hother : answers.get? q.id ≠ some (.str branch.name) := by
        cases branch
        case yes => exact hyes
        case no => exact hno
      simp [hother]

namespace Document

/-- The handles of what stands directly under a branch of a yes/no question. -/
def Node.under (n : Node) (branch : Branch) : List Nat :=
  match n.item, branch with
  | .yesNo _ yes _, .yes => handlesFrom (n.handle + 1) yes
  | .yesNo _ yes no, .no => handlesFrom (n.handle + 1 + Item.sizes yes) no
  | _, _ => []

/-- The way up from `n` goes through a branch of `y`: `n`, or an item that it stands in, is
directly under that branch. -/
def Node.Through (n y : Node) (branch : Branch) : Prop :=
  ∃ g ∈ n.handle :: n.above, g ∈ y.under branch

/-- If `y` is a yes/no question, then it has an id, and under it the answer that opens the
branch on the way up from `n`. -/
def Node.Opens (answers : Answers) (y n : Node) : Prop :=
  ∀ q yes no, y.item = .yesNo q yes no →
    q.id ≠ "" ∧ ∀ branch, n.Through y branch → answers.get? q.id = some (.str branch.name)

theorem Node.Opens.mono {answers : Answers} {y n k : Node} (h : y.Opens answers n)
    (hway : k.handle ∈ n.handle :: n.above) (hsub : k.above ⊆ n.above) : y.Opens answers k := by
  intro q yes no hitem
  obtain ⟨hid, hanswer⟩ := h q yes no hitem
  refine ⟨hid, fun branch ⟨g, hg, hunder⟩ => hanswer branch ⟨g, ?_, hunder⟩⟩
  rcases List.mem_cons.mp hg with rfl | hg
  · exact hway
  · exact List.mem_cons_of_mem _ (hsub hg)

section Branches

variable {above : List Nat} {handle : Nat} {q : Question} {yes no : List Item} {n : Node}

theorem through_of_mem_yes (habove : ∀ g ∈ above, g < handle)
    (hn : n ∈ outlineItems (handle :: above) (handle + 1) yes) (branch : Branch) :
    n.Through ⟨handle, above, .yesNo q yes no⟩ branch ↔ branch = .yes := by
  cases branch with
  | yes => exact iff_of_true (exists_mem_handlesFrom hn) rfl
  | no =>
      refine iff_of_false (fun ⟨g, hway, hunder⟩ => ?_) (by decide)
      exact not_above_of_later (above_lt_succ habove) hn (bounds_of_mem_handlesFrom hunder).1 hway

theorem through_of_mem_no (habove : ∀ g ∈ above, g < handle)
    (hn : n ∈ outlineItems (handle :: above) (handle + 1 + Item.sizes yes) no)
    (branch : Branch) :
    n.Through ⟨handle, above, .yesNo q yes no⟩ branch ↔ branch = .no := by
  cases branch with
  | yes =>
      refine iff_of_false (fun ⟨g, hway, hunder⟩ => ?_) (by decide)
      have hbounds := bounds_of_mem_handlesFrom hunder
      exact not_above_of_earlier (above_lt_succ habove) hn hbounds.1 hbounds.2 hway
  | no => exact iff_of_true (exists_mem_handlesFrom hn) rfl

/-- Where the way up goes through one branch only, that branch has to be open. -/
theorem opens_iff {answers : Answers} {branch : Branch}
    (h : ∀ other, n.Through ⟨handle, above, .yesNo q yes no⟩ other ↔ other = branch) :
    Node.Opens answers ⟨handle, above, .yesNo q yes no⟩ n ↔ q.branch? answers = some branch := by
  rw [Question.branch?_eq_some]
  constructor
  · intro hopens
    obtain ⟨hid, hanswer⟩ := hopens q yes no rfl
    exact ⟨hid, hanswer branch ((h branch).mpr rfl)⟩
  · rintro ⟨hid, hanswer⟩ q' yes' no' hitem
    cases hitem
    refine ⟨hid, fun other hother => ?_⟩
    rwa [(h other).mp hother]

end Branches

end Document

/-! ### The two walks over the mounted items -/

namespace Mounted

/-- The mounted items in reading order: all of them, or those that no condition hides. -/
def walkAll (visibleOnly : Bool) (ms : List Mounted) : List Mounted :=
  if visibleOnly then shownAll ms else subtrees ms

theorem walkAll_nil (visibleOnly : Bool) : walkAll visibleOnly [] = [] := by
  cases visibleOnly <;> rfl

theorem walkAll_cons (visibleOnly : Bool) (m : Mounted) (ms : List Mounted) :
    walkAll visibleOnly (m :: ms) = walkAll visibleOnly [m] ++ walkAll visibleOnly ms := by
  cases visibleOnly <;> simp [walkAll, shownAll, subtrees]

theorem walkAll_node (visibleOnly : Bool) (handle : Nat) (item : Item) (depth : Nat)
    (visible : Bool) (branch : Option Branch) (children : List Mounted) :
    walkAll visibleOnly [⟨handle, item, depth, visible, branch, children⟩] =
      if visibleOnly = true → visible = true then
        ⟨handle, item, depth, visible, branch, children⟩ :: walkAll visibleOnly children
      else [] := by
  cases visibleOnly <;> simp [walkAll, shownAll, shown, subtrees, subtree]

end Mounted

namespace Document

/-- What a walk over the mounted items asks of all that a node stands in, and of the node
itself. -/
def Passes (answers : Answers) (visibleOnly : Bool) (y n : Node) : Prop :=
  (y.handle ∈ n.above → y.Opens answers n) ∧
    (visibleOnly = true → Condition.evaluate y.item.cond answers = true)

/-- The nodes of mounted items, in the same order. -/
def Lists (ms : List Mounted) (nodes : List Node) : Prop :=
  ms.map (fun m => (m.handle, m.item)) = nodes.map fun n => (n.handle, n.item)

theorem Lists.append {ms more : List Mounted} {nodes others : List Node} (h : Lists ms nodes)
    (hmore : Lists more others) : Lists (ms ++ more) (nodes ++ others) := by
  rw [Lists, List.map_append, List.map_append, h, hmore]

variable {answers : Answers} {visibleOnly : Bool}

/-- A walk goes on below an item that no condition hides, and nowhere below one that is
hidden. -/
theorem lists_node (top : Node) {nodes : List Node} {depth : Nat}
    {branch : Option Branch} {children : List Mounted} (hholds : top.Holds nodes)
    (habove : top.handle ∉ top.above)
    (h : Lists (Mounted.walkAll visibleOnly children)
      (clearNodes (fun y n => top.Opens answers n ∧ Passes answers visibleOnly y n) nodes)) :
    Lists (Mounted.walkAll visibleOnly
        [⟨top.handle, top.item, depth, Condition.evaluate top.item.cond answers, branch, children⟩])
      (clearNodes (Passes answers visibleOnly) (top :: nodes)) := by
  rw [Mounted.walkAll_node, hholds.clearNodes]
  by_cases hshown : visibleOnly = true → Condition.evaluate top.item.cond answers = true
  · have htop : Passes answers visibleOnly top top := ⟨fun h => absurd h habove, hshown⟩
    have hopens : ∀ n ∈ nodes, Passes answers visibleOnly top n ↔ top.Opens answers n :=
      fun n hn => ⟨fun h => h.1 (hholds.above n hn), fun h => ⟨fun _ => h, hshown⟩⟩
    rw [if_pos hshown, if_pos htop, clearNodes_congr hopens]
    have hself : Lists [⟨top.handle, top.item, depth, Condition.evaluate top.item.cond answers,
        branch, children⟩] [top] := rfl
    exact hself.append h
  · have htop : ¬Passes answers visibleOnly top top := fun h => hshown h.2
    have hnone : ∀ n ∈ nodes, ¬Passes answers visibleOnly top n := fun n _ h => hshown h.2
    rw [if_neg hshown, if_neg htop, clearNodes_of_forall_not hnone]
    rfl

/-- An item that is no yes/no question opens itself to all that stands in it. -/
theorem opens_of_not_yesNo {y n : Node} (h : ∀ q yes no, y.item ≠ .yesNo q yes no) :
    y.Opens answers n :=
  fun q yes no hitem => absurd hitem (h q yes no)

/-- Under a yes/no question the walk goes on in the open branch. -/
theorem lists_ofBranch {above : List Nat} {handle depth : Nat} {q : Question}
    {yes no : List Item} (habove : ∀ g ∈ above, g < handle)
    (hyes : Lists (Mounted.walkAll visibleOnly (Mounted.ofItems answers depth (handle + 1) yes))
      (clearNodes (Passes answers visibleOnly) (outlineItems (handle :: above) (handle + 1) yes)))
    (hno : Lists (Mounted.walkAll visibleOnly
        (Mounted.ofItems answers depth (handle + 1 + Item.sizes yes) no))
      (clearNodes (Passes answers visibleOnly)
        (outlineItems (handle :: above) (handle + 1 + Item.sizes yes) no))) :
    Lists (Mounted.walkAll visibleOnly
        (Mounted.ofBranch answers depth handle yes no (q.branch? answers)))
      (clearNodes (fun y n => Node.Opens answers ⟨handle, above, .yesNo q yes no⟩ n ∧
          Passes answers visibleOnly y n)
        (outlineItems (handle :: above) (handle + 1) yes ++
          outlineItems (handle :: above) (handle + 1 + Item.sizes yes) no)) := by
  have hopensYes : ∀ n ∈ outlineItems (handle :: above) (handle + 1) yes,
      Node.Opens answers ⟨handle, above, .yesNo q yes no⟩ n ↔ q.branch? answers = some .yes :=
    fun n hn => opens_iff (through_of_mem_yes habove hn)
  have hopensNo : ∀ n ∈ outlineItems (handle :: above) (handle + 1 + Item.sizes yes) no,
      Node.Opens answers ⟨handle, above, .yesNo q yes no⟩ n ↔ q.branch? answers = some .no :=
    fun n hn => opens_iff (through_of_mem_no habove hn)
  rw [clearNodes_append (above_lt_succ habove)]
  cases hbranch : q.branch? answers with
  | none =>
      rw [hbranch] at hopensYes hopensNo
      simp only [reduceCtorEq, iff_false] at hopensYes hopensNo
      rw [clearNodes_of_forall_not hopensYes, clearNodes_of_forall_not hopensNo,
        Mounted.ofBranch, Mounted.walkAll_nil]
      rfl
  | some branch =>
      rw [hbranch] at hopensYes hopensNo
      cases branch with
      | yes =>
          simp only [reduceCtorEq, iff_false, iff_true, Option.some.injEq] at hopensYes hopensNo
          rw [clearNodes_of_forall hopensYes, clearNodes_of_forall_not hopensNo, List.append_nil]
          exact hyes
      | no =>
          simp only [reduceCtorEq, iff_false, iff_true, Option.some.injEq] at hopensYes hopensNo
          rw [clearNodes_of_forall_not hopensYes, clearNodes_of_forall hopensNo, List.nil_append]
          exact hno

mutual

/-- A walk over a mounted item lists the nodes of its subtree that are clear. -/
theorem lists_ofItem (answers : Answers) (visibleOnly : Bool) (above : List Nat)
    (depth handle : Nat) (habove : ∀ g ∈ above, g < handle) (item : Item) :
    Lists (Mounted.walkAll visibleOnly [Mounted.ofItem answers depth handle item])
      (clearNodes (Passes answers visibleOnly) (outlineItem above handle item)) := by
  have hself : handle ∉ above := fun h => Nat.lt_irrefl _ (habove _ h)
  have hbelow := above_lt_succ habove
  cases item with
  | block text cond items =>
      have hitems := lists_ofItems answers visibleOnly (handle :: above) (depth + 1) (handle + 1)
        hbelow items
      have hopens (n : Node) : Node.Opens answers ⟨handle, above, .block text cond items⟩ n :=
        opens_of_not_yesNo fun _ _ _ h => nomatch h
      refine lists_node ⟨handle, above, .block text cond items⟩
        (holds_outlineItems habove (Nat.lt_succ_self _) items) hself ?_
      rwa [clearNodes_of_forall fun n _ => hopens n]
  | yesNo q yes no =>
      have hlater : ∀ g ∈ handle :: above, g < handle + 1 + Item.sizes yes :=
        fun g hg => Nat.lt_add_right _ (hbelow g hg)
      have hyes := lists_ofItems answers visibleOnly (handle :: above) (depth + 1) (handle + 1)
        hbelow yes
      have hno := lists_ofItems answers visibleOnly (handle :: above) (depth + 1)
        (handle + 1 + Item.sizes yes) hlater no
      rw [Mounted.ofItem_yesNo]
      exact lists_node ⟨handle, above, .yesNo q yes no⟩
        ((holds_outlineItems habove (Nat.lt_succ_self _) yes).append
          (holds_outlineItems habove (by omega) no)) hself (lists_ofBranch habove hyes hno)
  | info | tip | spacer | line | box | check | radio | radioGroup | checkGroup | unknown =>
      refine lists_node ⟨handle, above, _⟩ (.nil _) hself ?_
      rw [Mounted.walkAll_nil]
      rfl

theorem lists_ofItems (answers : Answers) (visibleOnly : Bool) (above : List Nat)
    (depth handle : Nat) (habove : ∀ g ∈ above, g < handle) (items : List Item) :
    Lists (Mounted.walkAll visibleOnly (Mounted.ofItems answers depth handle items))
      (clearNodes (Passes answers visibleOnly) (outlineItems above handle items)) := by
  cases items with
  | nil =>
      rw [Mounted.ofItems, Mounted.walkAll_nil]
      rfl
  | cons item items =>
      have hitem := lists_ofItem answers visibleOnly above depth handle habove item
      have hitems := lists_ofItems answers visibleOnly above depth (handle + item.size)
        (fun g hg => Nat.lt_add_right _ (habove g hg)) items
      have hsplit : clearNodes (Passes answers visibleOnly)
          (outlineItems above handle [item] ++ outlineItems above (handle + item.size) items) = _ :=
        clearNodes_append habove
      rw [outlineItems_singleton] at hsplit
      rw [Mounted.ofItems, Mounted.walkAll_cons, outlineItems, hsplit]
      exact hitem.append hitems

end

theorem Lists.handles {ms : List Mounted} {nodes : List Node} (h : Lists ms nodes) :
    ms.map Mounted.handle = nodes.map Node.handle := by
  have hfst := congrArg (List.map Prod.fst) h
  rwa [List.map_map, List.map_map] at hfst

theorem Lists.items {ms : List Mounted} {nodes : List Node} (h : Lists ms nodes) :
    ms.map Mounted.item = nodes.map Node.item := by
  have hsnd := congrArg (List.map Prod.snd) h
  rwa [List.map_map, List.map_map] at hsnd

/-- The way up from a node goes through one branch of each yes/no question above it. -/
theorem exists_branch {d : Document} {n y : Node} (hn : n ∈ d.outline) (hy : y ∈ d.outline)
    (hway : y.handle ∈ n.above) {q : Question} {yes no : List Item}
    (hitem : y.item = .yesNo q yes no) :
    ∃ branch, ∀ other, n.Through y other ↔ other = branch := by
  have hone : OnSubtrees fun y n => y.handle ∈ n.above → ∀ q yes no, y.item = .yesNo q yes no →
      ∃ branch, ∀ other, n.Through y other ↔ other = branch := by
    rintro above handle _ habove n hn hway q yes no rfl
    rw [outlineItem, List.cons_append, List.mem_cons, List.mem_append] at hn
    rcases hn with rfl | hyes | hno
    · exact absurd (habove _ hway) (Nat.lt_irrefl _)
    · exact ⟨.yes, through_of_mem_yes habove hyes⟩
    · exact ⟨.no, through_of_mem_no habove hno⟩
  exact clear_outlineItems hone [] 0 (List.forall_mem_nil _) d.items n hn y hy
    (List.mem_cons_of_mem _ hway) hway q yes no hitem

end Document

/-! ### Presentations -/

namespace Presentation

open Document

variable {d : Document} {answers : Answers} {n : Node}

theorem lists_mounted (d : Document) (answers : Answers) :
    Lists (render d answers).mounted (clearNodes (Passes answers false) d.outline) :=
  lists_ofItems answers false [] 0 0 (List.forall_mem_nil _) d.items

theorem lists_shown (d : Document) (answers : Answers) :
    Lists (render d answers).shown (clearNodes (Passes answers true) d.outline) :=
  lists_ofItems answers true [] 0 0 (List.forall_mem_nil _) d.items

theorem isMounted_iff_clear (hn : n ∈ d.outline) :
    (render d answers).isMounted n.handle = true ↔ n.Clear (Passes answers false) d.outline := by
  have hindex : (render d answers).index =
      (clearNodes (Passes answers false) d.outline).map Node.handle :=
    (lists_mounted d answers).handles
  rw [isMounted, List.contains_iff_mem, hindex, List.mem_map]
  constructor
  · rintro ⟨k, hk, hhandle⟩
    obtain ⟨hmem, hclear⟩ := mem_clearNodes.mp hk
    exact node_inj hmem hn hhandle ▸ hclear
  · exact fun hclear => ⟨n, mem_clearNodes.mpr ⟨hn, hclear⟩, rfl⟩

/-- A node is found visible if it is mounted and its own condition is met. -/
theorem any_find?_iff (hn : n ∈ d.outline) :
    ((render d answers).find? n.handle).any Mounted.visible = true ↔
      (render d answers).isMounted n.handle = true ∧
        Condition.evaluate n.item.cond answers = true := by
  cases hfind : (render d answers).find? n.handle with
  | none =>
      refine iff_of_false (by simp) fun ⟨hmounted, _⟩ => ?_
      rw [find?_render, List.find?_eq_none] at hfind
      rw [isMounted, List.contains_iff_mem] at hmounted
      obtain ⟨m, hm, hhandle⟩ := List.mem_map.mp hmounted
      exact hfind m hm (beq_iff_eq.mpr hhandle)
  | some m =>
      obtain ⟨hvisible, hitem⟩ := node?_of_find?_render hfind
      rw [node?_of_mem hn, Option.map_some, Option.some_inj] at hitem
      have hmounted : (render d answers).isMounted n.handle = true := by
        by_contra hnot
        rw [find?, if_neg hnot] at hfind
        cases hfind
      rw [Option.any_some, hvisible, hitem]
      exact (and_iff_right hmounted).symm

theorem isVisible_iff_clear (hn : n ∈ d.outline) :
    (render d answers).isVisible n.handle = true ↔ n.Clear (Passes answers true) d.outline := by
  have hnode : (render d answers).document.node? n.handle = some n := node?_of_mem hn
  rw [isVisible_iff]
  constructor
  · rintro ⟨k, hk, hall⟩
    obtain rfl : n = k := Option.some.inj (hnode.symm.trans hk)
    have hmounted := ((any_find?_iff hn).mp (hall _ List.mem_cons_self)).1
    intro y hy hway
    have hclear := (isMounted_iff_clear hn).mp hmounted y hy hway
    exact ⟨hclear.1, fun _ => ((any_find?_iff hy).mp (hall _ hway)).2⟩
  · intro hclear
    refine ⟨n, hnode, fun g hg => ?_⟩
    obtain ⟨y, hy, rfl⟩ := exists_node_of_mem_way hn hg
    refine (any_find?_iff hy).mpr ⟨(isMounted_iff_clear hy).mpr fun z hz _ => ?_,
      (hclear y hy hg).2 rfl⟩
    -- What opens the way to a node opens the way to all that the node stands in.
    have hsub := above_subset hy hn hg
    refine ⟨fun habove => ?_, nofun⟩
    exact ((hclear z hz (List.mem_cons_of_mem _ (hsub habove))).1 (hsub habove)).mono hg hsub

/-! ### What is told -/

/-- The nodes among those seen whose item counts for progress and has an id. -/
def countedAmong (d : Document) (seen : Nat → Bool) : List Node :=
  d.outline.filter fun n => seen n.handle && n.item.countsForProgress && n.item.id.truthy

/-- What a presentation tells of a document for some answers. -/
structure Tells (d : Document) (answers : Answers) (p : Presentation) : Prop where
  /-- The way up from an item goes through one branch of each yes/no question above. -/
  way : ∀ n ∈ d.outline, ∀ y ∈ d.outline, y.handle ∈ n.above →
    ∀ q yes no, y.item = .yesNo q yes no →
      ∃ branch, ∀ other, n.Through y other ↔ other = branch
  /-- An item is mounted if each yes/no question above it has an id and the answer that
  opens the branch on the way. -/
  mounted : ∀ n ∈ d.outline, p.isMounted n.handle = true ↔
    ∀ y ∈ d.outline, y.handle ∈ n.above → y.Opens answers n
  /-- It is visible if it is mounted and its condition and all those above it are met. -/
  visible : ∀ n ∈ d.outline, p.isVisible n.handle = true ↔ p.isMounted n.handle = true ∧
    ∀ y ∈ d.outline, y.handle ∈ n.handle :: n.above →
      Condition.evaluate y.item.cond answers = true
  /-- The walk over what is mounted passes what is mounted, in the order of the document. -/
  mounted_walk : p.mounted.map Mounted.handle = d.walk.filter p.isMounted
  /-- The walk over what is visible passes what is visible, in the order of the document. -/
  shown_walk : p.shown.map Mounted.handle = d.walk.filter p.isVisible
  /-- Both go up with the handles, so that they pass none twice. -/
  mounted_increasing : (p.mounted.map Mounted.handle).Pairwise (· < ·)
  shown_increasing : (p.shown.map Mounted.handle).Pairwise (· < ·)
  /-- The ids that count for progress are those of the visible items that do. -/
  ids : p.visibleIds.map Json.str = (countedAmong d p.isVisible).map fun n => n.item.id
  /-- The total of the progress is their number, however many are answered. -/
  total : ∀ given, (p.progress given).total = (countedAmong d p.isVisible).length

/-- The id under which an item counts for progress. -/
def countedId? (item : Item) : Option Json :=
  if item.countsForProgress && item.id.truthy then some item.id else none

theorem answerId?_eq (m : Mounted) : m.answerId?.map Json.str = countedId? m.item := by
  obtain ⟨handle, item, depth, visible, branch, children⟩ := m
  cases item
  case line q _ | box q _ | check q | yesNo q _ _ | radio q _ =>
    by_cases hid : q.id = "" <;>
      simp [Mounted.answerId?, countedId?, Item.countsForProgress, Item.question?, Item.id,
        Json.truthy, hid]
  all_goals rfl

theorem map_handle_filter (d : Document) (seen : Nat → Bool) :
    (d.outline.filter fun n => seen n.handle).map Node.handle = d.walk.filter seen := by
  rw [walk, List.filter_map]
  rfl

/-- The ids among the items that a walk lists are those of the nodes that count. -/
theorem map_answerId? {ms : List Mounted} {seen : Nat → Bool}
    (h : Lists ms (d.outline.filter fun n => seen n.handle)) :
    (ms.filterMap Mounted.answerId?).map Json.str =
      (countedAmong d seen).map fun n => n.item.id := by
  have hids : (fun m : Mounted => m.answerId?.map Json.str) = countedId? ∘ Mounted.item :=
    funext answerId?_eq
  have hcounted : countedAmong d seen = (d.outline.filter fun n => seen n.handle).filter
      fun n => n.item.countsForProgress && n.item.id.truthy := by
    simp only [countedAmong, List.filter_filter, Bool.and_assoc, Bool.and_comm]
  generalize (d.outline.filter fun n => seen n.handle) = nodes at h hcounted
  calc (ms.filterMap Mounted.answerId?).map Json.str
      = (ms.map Mounted.item).filterMap countedId? := by
        rw [List.map_filterMap, hids, List.filterMap_map]
    _ = (nodes.map Node.item).filterMap countedId? := by rw [h.items]
    _ = (countedAmong d seen).map fun n => n.item.id := by
        rw [hcounted, List.filterMap_map, ← List.filterMap_eq_map, List.filterMap_filter]
        rfl

/-- Of all that a mounted item stands in, only the yes/no questions matter. -/
theorem clear_mounted_iff :
    n.Clear (Passes answers false) d.outline ↔
      ∀ y ∈ d.outline, y.handle ∈ n.above → y.Opens answers n :=
  ⟨fun h y hy habove => (h y hy (List.mem_cons_of_mem _ habove)).1 habove,
    fun h y hy _ => ⟨h y hy, nofun⟩⟩

/-- A visible item is a mounted one, and no condition hides it. -/
theorem clear_visible_iff :
    n.Clear (Passes answers true) d.outline ↔ n.Clear (Passes answers false) d.outline ∧
      ∀ y ∈ d.outline, y.handle ∈ n.handle :: n.above →
        Condition.evaluate y.item.cond answers = true :=
  ⟨fun h => ⟨fun y hy hway => ⟨(h y hy hway).1, nofun⟩, fun y hy hway => (h y hy hway).2 rfl⟩,
    fun h y hy hway => ⟨(h.1 y hy hway).1, fun _ => h.2 y hy hway⟩⟩

/-- A presentation rendered for some answers tells of the document for these. -/
theorem tells_render (d : Document) (answers : Answers) : Tells d answers (render d answers) := by
  have hmounted : ∀ n ∈ d.outline, (render d answers).isMounted n.handle = true ↔
      n.Clear (Passes answers false) d.outline := fun n hn => isMounted_iff_clear hn
  have hvisible : ∀ n ∈ d.outline, (render d answers).isVisible n.handle = true ↔
      n.Clear (Passes answers true) d.outline := fun n hn => isVisible_iff_clear hn
  have hlistsMounted := lists_mounted d answers
  have hlistsShown := lists_shown d answers
  rw [clearNodes_eq_filter hmounted] at hlistsMounted
  rw [clearNodes_eq_filter hvisible] at hlistsShown
  have hmountedWalk := hlistsMounted.handles.trans (map_handle_filter d _)
  have hshownWalk := hlistsShown.handles.trans (map_handle_filter d _)
  have hids := map_answerId? hlistsShown
  exact {
    way := fun n hn y hy hway q yes no hitem => exists_branch hn hy hway hitem
    mounted := fun n hn => (hmounted n hn).trans clear_mounted_iff
    visible := fun n hn => by rw [hvisible n hn, hmounted n hn, clear_visible_iff]
    mounted_walk := hmountedWalk
    shown_walk := hshownWalk
    mounted_increasing := hmountedWalk ▸ (pairwise_walk d).filter _
    shown_increasing := hshownWalk ▸ (pairwise_walk d).filter _
    ids := hids
    total := fun given => by
      have hlength := congrArg List.length hids
      rw [List.length_map, List.length_map] at hlength
      exact congrArg Int.ofNat hlength }

/-- **Visibility has one meaning.** -/
theorem tells_refreshAlong (d : Document) (first : Answers) (changes : List Answers) :
    Tells d (changes.getLastD first) ((render d first).refreshAlong changes) :=
  forall_refreshAlong d (tells_render d) first changes

end Presentation

end Questionnaire
