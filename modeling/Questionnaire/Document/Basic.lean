/-
Documents.

A document is a version and a list of items.  A handle is the place of an item in
reading order, counted from zero, where an item comes before what it holds and the
items under yes before those under no.  `outline` lists every item with its handle
and the handles of what it stands in; parents, children and lookups are read off it.
-/
import Questionnaire.Document.Item
import Questionnaire.Json.Equal
import Questionnaire.Misfit

namespace Questionnaire

/-- A questionnaire. -/
structure Document where
  version : Int
  items : List Item
  deriving Inhabited

namespace Document

/-- An item with its place in a document. -/
structure Node where
  handle : Nat
  /-- The handles of the items that this one stands in, the innermost first. -/
  above : List Nat
  item : Item
  deriving Inhabited

mutual

/-- The nodes of a subtree whose item has the given handle. -/
def outlineItem (above : List Nat) (handle : Nat) : Item → List Node
  | .block text cond items =>
    ⟨handle, above, .block text cond items⟩ :: outlineItems (handle :: above) (handle + 1) items
  | .yesNo q yes no =>
    ⟨handle, above, .yesNo q yes no⟩ :: outlineItems (handle :: above) (handle + 1) yes ++
      outlineItems (handle :: above) (handle + 1 + Item.sizes yes) no
  | item => [⟨handle, above, item⟩]

/-- The nodes of a list of subtrees, the first of which has the given handle. -/
def outlineItems (above : List Nat) (handle : Nat) : List Item → List Node
  | [] => []
  | item :: items =>
    outlineItem above handle item ++ outlineItems above (handle + item.size) items

end

/-- Every item with its place, in reading order. -/
def outline (d : Document) : List Node := outlineItems [] 0 d.items

/-- The number of items. -/
def size (d : Document) : Nat := Item.sizes d.items

/-- The handles of a list of subtrees that stand side by side from a handle on. -/
def handlesFrom (handle : Nat) : List Item → List Nat
  | [] => []
  | item :: items => handle :: handlesFrom (handle + item.size) items

/-- The handles of the items at the top. -/
def roots (d : Document) : List Nat := handlesFrom 0 d.items

/-- The handle of the item that holds a node; none at the top. -/
def Node.parent (n : Node) : Option Nat := n.above.head?

/-- The handles of what a node's item holds. -/
def Node.children (n : Node) : List Nat := handlesFrom (n.handle + 1) n.item.children

/-- The node with a handle. -/
def node? (d : Document) (handle : Nat) : Option Node := d.outline[handle]?

/-- The handle of what holds an item. -/
def parent? (d : Document) (handle : Nat) : Option Nat := (d.node? handle).bind Node.parent

/-- All handles in reading order. -/
def walk (d : Document) : List Nat := d.outline.map Node.handle

/-- The handles of the subtree at a node. -/
def Node.subtree (n : Node) : List Nat :=
  (outlineItem n.above n.handle n.item).map Node.handle

/-- The walk through the subtrees of the given handles, each of which is counted from
the end where it is negative. -/
def walkFrom (d : Document) (handles : List Int) : Except Misfit (List Int) := do
  let parts ← handles.mapM fun (h : Int) =>
    let place := if h < 0 then h + (d.size : Int) else h
    match if 0 ≤ place then d.node? place.toNat else none with
    | some n => .ok (h :: n.subtree.tail.map Int.ofNat)
    | none => .error .position
  return parts.flatten

/-- The first item with an id, which must not be empty. -/
def find? (d : Document) (id : Json) : Option Node :=
  if id.truthy then d.outline.find? (·.item.id.equal id) else none

/-- The ids that count toward progress, in reading order. -/
def answerableIds (d : Document) : List String :=
  d.outline.filterMap fun n =>
    if n.item.countsForProgress then
      n.item.question?.bind fun q => if q.id = "" then none else some q.id
    else none

end Document

end Questionnaire
