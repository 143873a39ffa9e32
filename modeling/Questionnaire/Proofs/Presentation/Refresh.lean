/-
A presentation that is kept up to date is the one rendered afresh.

`refresh` takes every condition again where it stands and mounts a branch anew only
where the answer opens another one.  What has to be shown is that nothing of the old
answers stays behind: not in a subtree that was mounted under them, not in a branch
that was replaced, and not in the index, which is made anew only if something was
reported as changed.

The simulation goes by induction on the items, for mounting and refreshing descend
along them in the same way.  `Follows` is what it carries.  Its second half is what
the index rests on: if a refresh reports nothing, then the handles in the subtree are
the ones that were there before, so that the old index is still the right one.
-/
import Questionnaire.Presentation.Refresh

namespace Questionnaire

namespace Mounted

/-! ### Handles of subtrees side by side -/

theorem handles_cons (m : Mounted) (ms : List Mounted) :
    handles (m :: ms) = handles [m] ++ handles ms := by
  simp [handles, subtrees]

theorem handles_node (handle : Nat) (item : Item) (depth : Nat) (visible : Bool)
    (branch : Option Branch) (children : List Mounted) :
    handles [⟨handle, item, depth, visible, branch, children⟩] = handle :: handles children := by
  simp [handles, subtrees, subtree]

/-! ### One refresh -/

/-- A refresh of items that stood as `old` gives those that stand as `fresh`. -/
structure Follows (old fresh : List Mounted) (result : List Mounted × List Nat) : Prop where
  /-- Nothing of the old answers is left. -/
  eq : result.1 = fresh
  /-- Where no change is reported, the same handles are mounted as before. -/
  quiet : result.2 = [] → handles old = handles fresh

/-- The branch of a yes/no question is mounted as `ofItem` mounts it. -/
theorem ofItem_yesNo (answers : Answers) (depth handle : Nat) (q : Question)
    (yes no : List Item) :
    ofItem answers depth handle (.yesNo q yes no) =
      ⟨handle, .yesNo q yes no, depth, Condition.evaluate q.cond answers, q.branch? answers,
        ofBranch answers (depth + 1) handle yes no (q.branch? answers)⟩ := by
  cases h : q.branch? answers with
  | none => simp [ofItem, ofBranch, h]
  | some branch => cases branch <;> simp [ofItem, ofBranch, h]

/-- An item whose children followed, and whose branch stays as it is, follows. -/
theorem follows_node {handle : Nat} {item : Item} {depth : Nat} {was now : Bool}
    {branch : Option Branch} {old fresh : List Mounted} {result : List Mounted × List Nat}
    (h : Follows old fresh result) :
    Follows [⟨handle, item, depth, was, branch, old⟩] [⟨handle, item, depth, now, branch, fresh⟩]
      ([⟨handle, item, depth, now, branch, result.1⟩],
        flipped handle was now ++ result.2) := by
  refine ⟨by rw [h.eq], fun hquiet => ?_⟩
  obtain ⟨-, hrest⟩ := List.append_eq_nil_iff.mp hquiet
  rw [handles_node, handles_node, h.quiet hrest]

/-- There is nothing to follow where there are no children. -/
theorem follows_nil (answers : Answers) : Follows [] [] (refreshAll answers []) :=
  ⟨rfl, fun _ => rfl⟩

/-- What stands under a branch that stays open follows if it does under either one. -/
theorem follows_ofBranch {before now : Answers} {depth handle : Nat} {yes no : List Item}
    (hyes : Follows (ofItems before depth (handle + 1) yes) (ofItems now depth (handle + 1) yes)
      (refreshAll now (ofItems before depth (handle + 1) yes)))
    (hno : Follows (ofItems before depth (handle + 1 + Item.sizes yes) no)
      (ofItems now depth (handle + 1 + Item.sizes yes) no)
      (refreshAll now (ofItems before depth (handle + 1 + Item.sizes yes) no)))
    (branch : Option Branch) :
    Follows (ofBranch before depth handle yes no branch) (ofBranch now depth handle yes no branch)
      (refreshAll now (ofBranch before depth handle yes no branch)) := by
  match branch with
  | none => exact follows_nil now
  | some .yes => exact hyes
  | some .no => exact hno

mutual

/-- An item that was mounted for other answers is refreshed to what it is for these. -/
theorem refresh_ofItem (before now : Answers) (depth handle : Nat) (item : Item) :
    Follows [ofItem before depth handle item] [ofItem now depth handle item]
      ([(refresh now (ofItem before depth handle item)).1],
        (refresh now (ofItem before depth handle item)).2) := by
  cases item with
  | block text cond items =>
      have hitems := refreshAll_ofItems before now (depth + 1) (handle + 1) items
      simp only [ofItem, refresh]
      exact follows_node hitems
  | yesNo q yes no =>
      rw [ofItem_yesNo, ofItem_yesNo]
      simp only [refresh]
      by_cases hbranch : q.branch? now = q.branch? before
      · -- The branch stays: its items are refreshed where they stand.
        have hyes := refreshAll_ofItems before now (depth + 1) (handle + 1) yes
        have hno := refreshAll_ofItems before now (depth + 1) (handle + 1 + Item.sizes yes) no
        rw [if_pos hbranch, hbranch]
        exact follows_node (follows_ofBranch hyes hno _)
      · -- Another branch opens.  It was reported item by item, so silence means both are empty.
        rw [if_neg hbranch]
        refine ⟨rfl, fun hquiet => ?_⟩
        obtain ⟨hold, hnew⟩ := List.append_eq_nil_iff.mp hquiet
        obtain ⟨-, hold⟩ := List.append_eq_nil_iff.mp hold
        rw [handles_node, handles_node, hold, hnew]
  | info | tip | spacer | line | box | check | radio | radioGroup | checkGroup | unknown =>
      simp only [ofItem, refresh, refreshAll]
      exact follows_node (follows_nil now)

/-- The same for items that stand side by side. -/
theorem refreshAll_ofItems (before now : Answers) (depth handle : Nat) (items : List Item) :
    Follows (ofItems before depth handle items) (ofItems now depth handle items)
      (refreshAll now (ofItems before depth handle items)) := by
  cases items with
  | nil => exact ⟨rfl, fun _ => rfl⟩
  | cons item items =>
      have hitem := refresh_ofItem before now depth handle item
      have hitems := refreshAll_ofItems before now depth (handle + item.size) items
      simp only [ofItems, refreshAll]
      refine ⟨?_, fun hquiet => ?_⟩
      · have hhead := hitem.eq
        rw [List.singleton_inj] at hhead
        rw [hhead, hitems.eq]
      · obtain ⟨hfirst, hrest⟩ := List.append_eq_nil_iff.mp hquiet
        rw [handles_cons, hitem.quiet hfirst, hitems.quiet hrest, ← handles_cons]

end

end Mounted

/-! ### Any number of changes -/

namespace Presentation

/-- Refreshing a rendered presentation renders it for the new answers. -/
theorem refresh_render (d : Document) (before now : Answers) :
    ((render d before).refresh now).1 = render d now := by
  have h := Mounted.refreshAll_ofItems before now 0 0 d.items
  simp only [render, refresh, h.eq]
  by_cases hquiet : (Mounted.refreshAll now (Mounted.ofItems before 0 0 d.items)).2.isEmpty
  · rw [if_pos hquiet, h.quiet (List.isEmpty_iff.mp hquiet)]
  · rw [if_neg hquiet]

/-- The presentation after the answers became these, one after the other. -/
def refreshAlong (p : Presentation) (changes : List Answers) : Presentation :=
  changes.foldl (fun p answers => (p.refresh answers).1) p

/-- Whatever holds of every presentation that is rendered holds along any number of changes. -/
theorem forall_refreshAlong {P : Answers → Presentation → Prop} (d : Document)
    (h : ∀ answers, P answers (render d answers)) (first : Answers) (changes : List Answers) :
    P (changes.getLastD first) ((render d first).refreshAlong changes) := by
  induction changes generalizing first with
  | nil => exact h first
  | cons answers rest ih =>
      rw [refreshAlong, List.foldl_cons, refresh_render, List.getLastD_cons]
      exact ih answers

/-- **A presentation that went along with any number of changes is the one rendered
afresh for the last of them**: the same items are mounted in the same order, with the
same depths, conditions and branches, under the same index. -/
theorem refreshAlong_render (d : Document) (first : Answers) (changes : List Answers) :
    (render d first).refreshAlong changes = render d (changes.getLastD first) := by
  apply forall_refreshAlong (P := fun answers p => p = render d answers)
  intro answers
  rfl

end Presentation

end Questionnaire
