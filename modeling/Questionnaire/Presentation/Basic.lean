/-
What a respondent sees.

A presentation is the tree of mounted items of a document for some answers.  A yes/no
question mounts what stands under yes only if its answer is exactly `yes`, and what
stands under no only if it is exactly `no`.  A mounted item carries the result of its
own condition; it is visible if that and the conditions of all it stands in hold.
Hidden items stay mounted and keep their answers.
-/
import Questionnaire.Document.Basic
import Questionnaire.Condition

namespace Questionnaire

/-- The two ways to answer a yes/no question. -/
inductive Branch
  | yes | no
  deriving DecidableEq, Repr, Inhabited

def Branch.name : Branch → String
  | .yes => "yes"
  | .no => "no"

/-- The branch that an answer opens. -/
def Branch.ofAnswer? : Option Json → Option Branch
  | some (.str "yes") => some .yes
  | some (.str "no") => some .no
  | _ => none

/-- The branch of a yes/no question that the answers open; a question without an id has
no answer. -/
def Question.branch? (q : Question) (answers : Answers) : Option Branch :=
  if q.id = "" then none else Branch.ofAnswer? (answers.get? q.id)

/-- A mounted item. -/
structure Mounted where
  handle : Nat
  item : Item
  depth : Nat
  /-- Whether the item's own condition holds. -/
  visible : Bool
  /-- The open branch of a yes/no question. -/
  branch : Option Branch
  children : List Mounted
  deriving Inhabited

namespace Mounted

mutual

/-- Mounts an item with its subtree. -/
def ofItem (answers : Answers) (depth handle : Nat) : Item → Mounted
  | .block text cond items =>
    ⟨handle, .block text cond items, depth, Condition.evaluate cond answers, none,
      ofItems answers (depth + 1) (handle + 1) items⟩
  | .yesNo q yes no =>
    let branch := q.branch? answers
    ⟨handle, .yesNo q yes no, depth, Condition.evaluate q.cond answers, branch,
      match branch with
      | some .yes => ofItems answers (depth + 1) (handle + 1) yes
      | some .no => ofItems answers (depth + 1) (handle + 1 + Item.sizes yes) no
      | none => []⟩
  | item => ⟨handle, item, depth, Condition.evaluate item.cond answers, none, []⟩

/-- Mounts items that stand side by side. -/
def ofItems (answers : Answers) (depth handle : Nat) : List Item → List Mounted
  | [] => []
  | item :: items =>
    ofItem answers depth handle item :: ofItems answers depth (handle + item.size) items

end

/-- Mounts what stands under a branch of the yes/no question with a handle. -/
def ofBranch (answers : Answers) (depth handle : Nat) (yes no : List Item) :
    Option Branch → List Mounted
  | some .yes => ofItems answers depth (handle + 1) yes
  | some .no => ofItems answers depth (handle + 1 + Item.sizes yes) no
  | none => []

mutual

/-- The mounted items of a subtree in reading order. -/
def subtree : Mounted → List Mounted
  | ⟨handle, item, depth, visible, branch, children⟩ =>
    ⟨handle, item, depth, visible, branch, children⟩ :: subtrees children

/-- The mounted items of subtrees that stand side by side. -/
def subtrees : List Mounted → List Mounted
  | [] => []
  | m :: ms => subtree m ++ subtrees ms

end

/-- The handles of the items in subtrees. -/
def handles (ms : List Mounted) : List Nat := (subtrees ms).map Mounted.handle

mutual

/-- The items of a subtree that no condition hides. -/
def shown : Mounted → List Mounted
  | ⟨handle, item, depth, visible, branch, children⟩ =>
    if visible then ⟨handle, item, depth, visible, branch, children⟩ :: shownAll children
    else []

/-- The items of subtrees that no condition hides. -/
def shownAll : List Mounted → List Mounted
  | [] => []
  | m :: ms => shown m ++ shownAll ms

end

/-- The id under which the answer of an item that counts for progress is kept. -/
def answerId? (m : Mounted) : Option String :=
  if m.item.countsForProgress then
    m.item.question?.bind fun q => if q.id = "" then none else some q.id
  else none

mutual

/-- Equality of two mounted subtrees of one document. -/
def same : Mounted → Mounted → Bool
  | ⟨h, _, d, v, b, cs⟩, ⟨h', _, d', v', b', cs'⟩ =>
    h == h' && d == d' && v == v' && b == b' && allSame cs cs'

def allSame : List Mounted → List Mounted → Bool
  | [], [] => true
  | m :: ms, n :: ns => same m n && allSame ms ns
  | _, _ => false

end

end Mounted

/-- The mounted view of a document. -/
structure Presentation where
  document : Document
  roots : List Mounted
  /-- The handles of the mounted items in reading order, as of the last change. -/
  index : List Nat
  deriving Inhabited

namespace Presentation

/-- The presentation of a document for some answers. -/
def render (d : Document) (answers : Answers) : Presentation :=
  let roots := Mounted.ofItems answers 0 0 d.items
  ⟨d, roots, Mounted.handles roots⟩

/-- The mounted items in reading order. -/
def mounted (p : Presentation) : List Mounted := Mounted.subtrees p.roots

/-- The visible items in reading order. -/
def shown (p : Presentation) : List Mounted := Mounted.shownAll p.roots

/-- Whether the item with a handle is mounted. -/
def isMounted (p : Presentation) (handle : Nat) : Bool := p.index.contains handle

/-- The mounted item with a handle. -/
def find? (p : Presentation) (handle : Nat) : Option Mounted :=
  if p.isMounted handle then p.mounted.find? (·.handle == handle) else none

/-- Whether the item with a handle is mounted and nothing hides it. -/
def isVisible (p : Presentation) (handle : Nat) : Bool :=
  match p.document.node? handle with
  | none => false
  | some n => (handle :: n.above).all fun h => (p.find? h).any Mounted.visible

/-- The ids of the visible items that count for progress, in reading order. -/
def visibleIds (p : Presentation) : List String := p.shown.filterMap Mounted.answerId?

/-- Equality of two presentations of one document. -/
def same (p q : Presentation) : Bool :=
  Mounted.allSame p.roots q.roots && p.index == q.index

end Presentation

end Questionnaire
