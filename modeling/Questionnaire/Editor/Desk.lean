/-
Editing by keys.

Whoever edits names an item by any value that equals its handle.  The value itself is
kept: a selection, a list and a parent show the item as it was named when it was selected
or moved.
-/
import Questionnaire.Editor.Edit
import Questionnaire.Json.Key

namespace Questionnaire.Editor

/-- An editor, and the values that items were named by. -/
structure Desk where
  editor : Editor
  selectedAs : Json := .null
  /-- The names under which items stand in lists, the latest first. -/
  listed : List (Nat × Json) := []
  /-- The names of the parents of items, the latest first. -/
  parents : List (Nat × Json) := []

namespace Desk

/-- An item as it stands in its list. -/
def shown (d : Desk) (handle : Nat) : Json := (d.listed.lookup handle).getD (.int handle)

/-- What is selected. -/
def selected (d : Desk) : Json := if d.editor.selected.isSome then d.selectedAs else .null

/-- A step of the editor. -/
def edit {α : Type} (a : Attempt Editor α) : Attempt Desk α := fun d =>
  let (r, editor) := a.run d.editor
  (r, { d with editor })

/-- The handle of the item that a key finds. -/
def handle (key : Json) : Attempt Desk Int := do
  match ← Attempt.fit key.key? with
  | some n => if (← get).editor.contains n then return n else throw (.notFound "Item" key)
  | none => throw (.notFound "Item" key)

/-- The handle that a key finds; null stands for no item. -/
def handle? : Json → Attempt Desk (Option Int)
  | .null => pure none
  | key => some <$> handle key

/-- Adds an item under the parent with a key. -/
def add (raw parent slot : Json) (position : Position) : Attempt Desk Nat := do
  let next := (← get).editor.next
  let place ← if raw.isObject then handle? parent else pure none
  modify fun d => { d with parents := (next, parent) :: d.parents }
  edit (Editor.add raw place slot position)

/-- Changes the attributes of an item. -/
def update (key : Json) (attributes : Entries Json) : Attempt Desk Unit := do
  if attributes.names.any isReserved then throw (.misfit .kind)
  edit (Editor.update (← handle key) attributes)

def remove (key : Json) : Attempt Desk Unit := do edit (Editor.remove (← handle key))

/-- Moves an item under the parent with a key. -/
def move (key parent slot : Json) (position : Position) : Attempt Desk Unit := do
  let n ← handle key
  edit (Editor.move n (← handle? parent) slot position)
  modify fun d => { d with
    listed := (n.toNat, key) :: d.listed
    parents := (n.toNat, parent) :: d.parents }

def select (key : Json) : Attempt Desk Unit := do
  edit (Editor.select (← handle? key))
  modify fun d => { d with selectedAs := key }

/-- The attributes of an item. -/
def item (key : Json) : Attempt Desk (Entries Json) := do
  let n ← handle key
  Attempt.lift ((← get).editor.item n)

/-- The parent of an item, its place and its position. -/
def location (key : Json) : Attempt Desk (Json × Slot × Nat) := do
  let n ← handle key
  let d ← get
  let (place, i) ← Attempt.lift (d.editor.location n)
  let parent := match place.parent with
    | some p => (d.parents.lookup n.toNat).getD (.int p)
    | none => .null
  return (parent, place.slot, i)

/-- The items in a slot of the item that a key finds.  What finds nothing has no items. -/
def children (d : Desk) (parent slot : Json) : Except Misfit (List Json) := do
  let n ← parent.key?
  let _ ← slot.key?
  let places : List Place := match parent, n, slot.str?.bind Slot.ofName? with
    | .null, _, some slot => [⟨none, slot⟩]
    | _, some n, some slot => if n < 0 then [] else [⟨some n.toNat, slot⟩]
    | _, _, _ => []
  return places.flatMap fun place => (d.editor.children place).map d.shown

def contains (d : Desk) (key : Json) : Except Misfit Bool := (·.any d.editor.contains) <$> key.key?

end Desk

end Questionnaire.Editor
