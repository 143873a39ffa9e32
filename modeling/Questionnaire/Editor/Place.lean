/-
Places in a questionnaire under work.

A place is a list of children: one of the slots of a container, or the top level,
whose only slot is `items`.  A position in such a list counts from the end where it
is negative and is moved to the nearest end where it lies outside.
-/
import Questionnaire.Json.Value
import Questionnaire.Misfit

namespace Questionnaire.Editor

/-- The lists of children that an item can have. -/
inductive Slot
  | items | yes | no
  deriving DecidableEq, Repr, Inhabited

namespace Slot

def name : Slot → String
  | .items => "items"
  | .yes => "yes"
  | .no => "no"

/-- All slots in the order in which they are shown. -/
def all : List Slot := [.items, .yes, .no]

def ofName? (name : String) : Option Slot := all.find? (·.name = name)

/-- The slots of an item of a type.  A list or an object cannot be looked up as a type. -/
def ofType : Json → Except Misfit (List Slot)
  | .str "block" => .ok [.items]
  | .str "yesno" => .ok [.yes, .no]
  | .arr _ | .obj _ => .error .kind
  | _ => .ok []

/-- The slots of an item by its attributes. -/
def ofAttributes (attributes : Entries Json) : List Slot :=
  match ofType ((attributes.get? "type").getD .null) with
  | .ok slots => slots
  | .error _ => []

end Slot

/-- A list of children: a slot of an item, or of the top level. -/
structure Place where
  parent : Option Nat
  slot : Slot
  deriving DecidableEq, Repr, Inhabited

/-- The list at the top level. -/
def Place.top : Place := ⟨none, .items⟩

/-- Where in a list an item is put. -/
inductive Position
  | last
  | at (index : Int)
  /-- A value that is no position. -/
  | unusable
  deriving DecidableEq, Repr

namespace Position

/-- The position that a value gives: none for the end, a number for an index. -/
def ofJson : Json → Position
  | .null => .last
  | .int n => .at n
  | .bool b => .at (if b then 1 else 0)
  | _ => .unusable

/-- The number of items in front of the position in a list of the given length.  An index
has to fit sixty-four bits. -/
def offset (length : Nat) : Position → Except Misfit Nat
  | .last => .ok length
  | .at i =>
    if i < -2 ^ 63 || 2 ^ 63 ≤ i then .error .range
    else .ok (if i < 0 then min length (i + length).toNat else min length i.toNat)
  | .unusable => .error .kind

end Position

/-- A list with a handle put behind the first items. -/
def insertAt (offset handle : Nat) (handles : List Nat) : List Nat :=
  handles.take offset ++ handle :: handles.drop offset

end Questionnaire.Editor
