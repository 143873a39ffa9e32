/-
Bringing a presentation up to date.

After a change of answers every mounted item's condition is taken again, in place.
Where the answer of a yes/no question opens another branch, the old branch is
unmounted and the new one mounted as a whole; what was just mounted needs no second
look.  The handles of all that changed are returned, and only if there are any is the
index made anew.
-/
import Questionnaire.Presentation.Basic

namespace Questionnaire

namespace Mounted

/-- The handle of an item whose condition came out differently. -/
def flipped (handle : Nat) (before now : Bool) : List Nat := if now = before then [] else [handle]

mutual

/-- A mounted subtree for new answers, with the handles of what changed. -/
def refresh (answers : Answers) : Mounted → Mounted × List Nat
  | ⟨handle, item, depth, visible, branch, children⟩ =>
    let now := Condition.evaluate item.cond answers
    let (kept, changed) := refreshAll answers children
    match item with
    | .yesNo q yes no =>
      let wanted := q.branch? answers
      if wanted = branch then
        (⟨handle, item, depth, now, branch, kept⟩, flipped handle visible now ++ changed)
      else
        let fresh := ofBranch answers (depth + 1) handle yes no wanted
        (⟨handle, item, depth, now, wanted, fresh⟩,
          flipped handle visible now ++ handles children ++ handles fresh)
    | _ => (⟨handle, item, depth, now, branch, kept⟩, flipped handle visible now ++ changed)

def refreshAll (answers : Answers) : List Mounted → List Mounted × List Nat
  | [] => ([], [])
  | m :: ms =>
    let (m, changed) := refresh answers m
    let (ms, more) := refreshAll answers ms
    (m :: ms, changed ++ more)

end

end Mounted

/-- The presentation for new answers, with the handles of the items whose condition
came out differently or that were mounted or unmounted. -/
def Presentation.refresh (p : Presentation) (answers : Answers) : Presentation × List Nat :=
  let (roots, changed) := Mounted.refreshAll answers p.roots
  let index := if changed.isEmpty then p.index else Mounted.handles roots
  ({ p with roots, index }, changed)

end Questionnaire
