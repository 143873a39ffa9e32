/-
Editing.

Items are added with all that they hold, changed, removed with all that they hold, and
moved.  Children are found under the slots of an item's type and are taken out of its
attributes; an entry among them that is no object is passed over, and an item of
another type keeps whatever it carries.
-/
import Questionnaire.Document.Writer
import Questionnaire.Editor.Basic

namespace Questionnaire.Editor

/-! ### Changing the parts -/

/-- Records the handles of a list. -/
def setList (lists : List (Place × List Nat)) (place : Place) (handles : List Nat) :
    List (Place × List Nat) :=
  match lists with
  | [] => [(place, handles)]
  | (p, hs) :: rest =>
    if p = place then (place, handles) :: rest else (p, hs) :: setList rest place handles

def putList (e : Editor) (place : Place) (handles : List Nat) : Editor :=
  { e with lists := setList e.lists place handles }

/-- Changes the item with a handle. -/
def modifyLive (e : Editor) (handle : Nat) (f : Live → Live) : Editor :=
  { e with live := e.live.map fun item => if item.handle = handle then f item else item }

/-- Puts a handle into a list, which is made if it is not there. -/
def enlist (place : Place) (position : Position) (handle : Nat) : Attempt Editor Unit := do
  let e ← get
  let handles := e.children place
  set (e.putList place handles)
  let offset ← Attempt.fit (position.offset handles.length)
  modify (·.putList place (insertAt offset handle handles))

/-- Takes a handle out of a list in which it has to stand. -/
def delist (place : Place) (handle : Nat) : Attempt Editor Unit := do
  let e ← get
  match e.list? place with
  | none => throw (.misfit .member)
  | some handles =>
    if handles.contains handle then set (e.putList place (handles.erase handle))
    else throw (.misfit .content)

/-! ### Adding -/

mutual

/-- Adds an item with all that it holds. -/
def insert (place : Place) (position : Position) : Json → Attempt Editor Nat
  | .obj ms => do
    let handle := (← get).next
    modify fun e => { e with next := handle + 1 }
    let slots ← Attempt.fit (Slot.ofType ((ms.lookup "type").getD .null))
    let own := ms.filter fun m => !slots.any (·.name = m.1)
    modify fun e => { e with live := e.live ++ [⟨handle, own, place⟩] }
    enlist place position handle
    if slots.contains .items then insertSlot handle .items ms
    if slots.contains .yes then insertSlot handle .yes ms
    if slots.contains .no then insertSlot handle .no ms
    return handle
  | _ => throw (.misfit .kind)

/-- Adds what stands under a slot of a new item. -/
def insertSlot (handle : Nat) (slot : Slot) : List (String × Json) → Attempt Editor Unit
  | [] => modify (·.putList ⟨some handle, slot⟩ [])
  | (name, v) :: ms =>
    if name = slot.name then do
      modify (·.putList ⟨some handle, slot⟩ [])
      insertChildren ⟨some handle, slot⟩ v
    else insertSlot handle slot ms

/-- Adds the objects of a list of children. -/
def insertChildren (place : Place) : Json → Attempt Editor Unit
  | .arr vs => insertAll place vs
  | .str _ | .obj _ => pure ()
  | v => if v.truthy then throw (.misfit .kind) else pure ()

def insertAll (place : Place) : List Json → Attempt Editor Unit
  | [] => pure ()
  | v :: vs => do
    if v.isObject then
      let _ ← insert place .last v
    insertAll place vs

end

/-- Notes that something was edited. -/
def touch : Attempt Editor Unit := modify fun e => { e with dirty := true }

/-- Adds an item and gives its handle. -/
def add (raw : Json) (parent : Option Int) (slot : Json) (position : Position) :
    Attempt Editor Nat := do
  if !raw.isObject then Attempt.refuse .itemKind
  let place ← Attempt.lift ((← get).place parent slot)
  let handle ← insert place position raw
  touch
  return handle

/-- Opens a document for editing.  Entries at the top that are no objects are left out. -/
def ofDocument (d : Document) : Except Failure Editor :=
  let start : Editor := { version := .int d.version }
  match (insertAll .top (Item.allToJson d.items)).run start with
  | (.ok (), e) => .ok e
  | (.error f, _) => .error f

/-! ### Changing, removing, moving -/

/-- Sets one attribute of an item; null and the empty text take it away. -/
def updateOne (handle : Nat) (name : String) (value : Json) : Attempt Editor Unit := do
  if (Slot.ofName? name).isSome then Attempt.refuse (.childrenAttribute name)
  let current := (((← get).find? handle).map Live.attributes).getD []
  if name = "type" && !Json.sameAs (current.get? "type") value then Attempt.refuse .typeFixed
  let changed := match value with
    | .null | .str "" => Entries.erase current name
    | v => Entries.set current name v
  modify (·.modifyLive handle fun item => { item with attributes := changed })

/-- Sets attributes one after the other, up to the first that is refused. -/
def updateAll (handle : Nat) : Entries Json → Attempt Editor Unit
  | [] => pure ()
  | (name, value) :: rest => do
    updateOne handle name value
    updateAll handle rest

/-- A name that no attribute can be set under. -/
def isReserved (name : String) : Bool := name = "handle" || name = "self"

/-- Changes the attributes of an item. -/
def update (handle : Int) (attributes : Entries Json) : Attempt Editor Unit := do
  if attributes.names.any isReserved then throw (.misfit .kind)
  let item ← Attempt.lift ((← get).require handle)
  updateAll item.handle attributes
  touch

/-- The editor without some items and their lists. -/
def drop (e : Editor) (handles : List Nat) : Editor :=
  { e with
    live := e.live.filter fun item => !handles.contains item.handle
    lists := e.lists.filter fun l => !l.1.parent.any handles.contains
    selected := e.selected.filter fun h => !handles.contains h }

/-- Removes an item with all that it holds. -/
def remove (handle : Int) : Attempt Editor Unit := do
  let item ← Attempt.lift ((← get).require handle)
  delist item.place item.handle
  modify fun e => e.drop (e.subtree item.handle)
  touch

/-- Moves an item with all that it holds.  The position counts in the list without the
item. -/
def move (handle : Int) (parent : Option Int) (slot : Json) (position : Position) :
    Attempt Editor Unit := do
  let item ← Attempt.lift ((← get).require handle)
  let place ← Attempt.lift ((← get).place parent slot)
  if place.parent.any ((← get).subtree item.handle).contains then Attempt.refuse .insideItself
  delist item.place item.handle
  enlist place position item.handle
  modify (·.modifyLive item.handle fun item => { item with place })
  touch

/-- Selects an item, or none. -/
def select (handle : Option Int) : Attempt Editor Unit := do
  match handle with
  | none => modify fun e => { e with selected := none }
  | some h =>
    let item ← Attempt.lift ((← get).require h)
    modify fun e => { e with selected := some item.handle }

end Questionnaire.Editor
