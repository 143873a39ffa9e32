/-
A questionnaire under work.

The editor keeps every item under a handle that is given once and never again.  An
item has its own attributes, without its children; which items are whose children, and
in which order, is kept in lists by place.  Each item records the place that it is in.

An attempt that fails keeps what it did: a handle stays used up, and an item whose
position turned out to be no position stays recorded without standing in any list.
-/
import Questionnaire.Attempt
import Questionnaire.Editor.Place

namespace Questionnaire

open Editor (Place Slot Position)

/-- An item under work. -/
structure Editor.Live where
  handle : Nat
  /-- The item's attributes without its children. -/
  attributes : Entries Json
  /-- The list that the item stands in. -/
  place : Place
  deriving Inhabited

/-- A questionnaire under work. -/
structure Editor where
  version : Json
  selected : Option Nat := none
  /-- Whether anything was edited. -/
  dirty : Bool := false
  /-- The items in order of arrival. -/
  live : List Editor.Live := []
  /-- The lists of children. -/
  lists : List (Place × List Nat) := [(.top, [])]
  /-- The next handle. -/
  next : Nat := 0
  deriving Inhabited

namespace Editor

/-! ### Looking -/

/-- The item with a handle. -/
def find? (e : Editor) (handle : Nat) : Option Live := e.live.find? (·.handle = handle)

def contains (e : Editor) (handle : Int) : Bool :=
  0 ≤ handle && (e.find? handle.toNat).isSome

/-- The handles in a list, if there is such a list. -/
def list? (e : Editor) (place : Place) : Option (List Nat) := e.lists.lookup place

/-- The handles in a list. -/
def children (e : Editor) (place : Place) : List Nat := (e.list? place).getD []

/-- The item with a handle, or the failure that there is none. -/
def require (e : Editor) (handle : Int) : Except Failure Live :=
  match if 0 ≤ handle then e.find? handle.toNat else none with
  | some item => .ok item
  | none => .error (.notFound "Item" (.int handle))

/-- The slots of the item with a handle. -/
def slots (e : Editor) (handle : Nat) : List Slot :=
  match e.find? handle with
  | some item => Slot.ofAttributes item.attributes
  | none => []

/-- The lists of children of the item with a handle. -/
def places (e : Editor) (handle : Nat) : List Place := (e.slots handle).map (⟨some handle, ·⟩)

/-- The handles of the subtree at a handle in reading order, down to a depth. -/
def descend (e : Editor) : (depth : Nat) → (handle : Nat) → List Nat
  | 0, handle => [handle]
  | depth + 1, handle =>
    handle :: (e.places handle).flatMap fun place =>
      (e.children place).flatMap (e.descend depth)

/-- The handles of the subtree at a handle.  A chain of children has no more items than
there are. -/
def subtree (e : Editor) (handle : Nat) : List Nat := e.descend e.live.length handle

/-- The place and the position of an item.  An item that stands in no list has none. -/
def location (e : Editor) (handle : Int) : Except Failure (Place × Nat) := do
  let item ← e.require handle
  match e.list? item.place with
  | none => .error (.misfit .member)
  | some handles =>
    match handles.findIdx? (· = item.handle) with
    | some i => .ok (item.place, i)
    | none => .error (.misfit .content)

/-- The attributes of an item. -/
def item (e : Editor) (handle : Int) : Except Failure (Entries Json) :=
  (e.require handle).map Live.attributes

/-- The first item in reading order with an id. -/
def handleOf (e : Editor) (id : Json) : Except Failure Nat :=
  let reading := (e.children .top).flatMap e.subtree
  match reading.find? fun h => (e.find? h).any fun item =>
      Json.sameAs (item.attributes.get? "id") id with
  | some h => .ok h
  | none => .error (.notFound "Item" id)

/-- The list that a parent and the name of a slot stand for. -/
def place (e : Editor) (parent : Option Int) (slot : Json) : Except Failure Place :=
  match parent with
  | none =>
    if Json.equal slot (.str "items") then .ok .top
    else .error (.refused (.topLevelSlot slot.words))
  | some handle => do
    let item ← e.require handle
    let type := (item.attributes.get? "type").getD .null
    let slots := Slot.ofAttributes item.attributes
    match slots.find? fun s => Json.equal slot (.str s.name) with
    | some s => .ok ⟨some item.handle, s⟩
    | none => .error (.refused (.noSlot type.words slot.words))

/-! ### Ids -/

/-- A set of values with one more. -/
def addTo (ids : List Json) (id : Json) : List Json :=
  if ids.any (·.samePart id) then ids else ids ++ [id]

/-- The option ids among the choices of a checkbox group. -/
def choiceIds (choices : Json) : Except Misfit (List Json) :=
  match choices with
  | .arr entries => .ok (entries.flatMap fun entry => entry.members.names.map Json.str)
  | v => if v.truthy then
      match v with
      | .str _ | .obj _ => .ok []
      | _ => .error .kind
    else .ok []

/-- The ids that an item uses: its own, and those of its options if it is a checkbox
group. -/
def idsOf (attributes : Entries Json) : Except Misfit (List Json) := do
  let id := (attributes.get? "id").getD .null
  let own ← if id.truthy then
      match id with
      | .arr _ | .obj _ => .error .kind
      | id => .ok [id]
    else .ok []
  let choices ← if Json.sameAs (attributes.get? "type") (.str "checkgroup") then
      choiceIds ((attributes.get? "choices").getD .null)
    else .ok []
  return own ++ choices

/-- Every id in use, each once. -/
def usedIds (e : Editor) : Except Misfit (List Json) := do
  let ids ← e.live.mapM fun item => idsOf item.attributes
  return ids.flatten.foldl addTo []

/-- The id with a number. -/
def numbered (stem : String) (n : Nat) : String := stem ++ "_" ++ toString n

/-- The first free id with a number, counted from one.  One more number than there are
ids in use is enough. -/
def generateId (e : Editor) (stem : String) : Except Misfit String := do
  let used ← e.usedIds
  let free := (List.range (used.length + 1)).find? fun n =>
    !used.any (·.equal (.str (numbered stem (n + 1))))
  return numbered stem (free.getD 0 + 1)

/-! ### New items -/

/-- The attributes that a new item of a type starts with. -/
def starter? : String → Option (Entries Json)
  | "block" => some [("type", .str "block"), ("text", .str "New Section")]
  | "info" => some [("type", .str "info"), ("text", .str "Information text here")]
  | "tip" => some [("type", .str "tip"), ("text", .str "Warning text"), ("warn", .bool true),
      ("severity", .str "medium")]
  | "spacer" => some [("type", .str "spacer")]
  | "line" => some [("type", .str "line"), ("text", .str "Question text")]
  | "box" => some [("type", .str "box"), ("text", .str "Question text")]
  | "check" => some [("type", .str "check"), ("text", .str "Checkbox label")]
  | "radio" => some [("type", .str "radio"), ("text", .str "Radio label"), ("choices", .arr [])]
  | "radiogroup" =>
    some [("type", .str "radiogroup"), ("text", .str "Question text"), ("choices", .arr [])]
  | "checkgroup" => some [("type", .str "checkgroup"), ("choices", .arr [])]
  | "yesno" => some [("type", .str "yesno"), ("text", .str "Question text")]
  | _ => none

/-- What the generated ids of a type begin with; some types go without an id. -/
def stem? : String → Option String
  | "tip" => some "tip"
  | "block" | "info" | "spacer" => none
  | _ => some "q"

/-- The attributes of a new item of a type, with a free id. -/
def defaultItem (e : Editor) (type : Json) : Except Failure (Entries Json) :=
  match type with
  | .arr _ | .obj _ => .error (.misfit .kind)
  | type =>
    match type.str?.bind fun name => (starter? name).map (name, ·) with
    | none => .error (.refused (.unknownType type))
    | some (name, attributes) =>
      match stem? name with
      | none => .ok attributes
      | some stem => do
        let id ← (e.generateId stem).mapError Failure.misfit
        return attributes ++ [("id", .str id)]

/-! ### The result -/

/-- The value that describes the item with a handle and what it holds, down to a depth. -/
def describe (e : Editor) : (depth : Nat) → (handle : Nat) → Json
  | 0, handle => .obj (((e.find? handle).map Live.attributes).getD [])
  | depth + 1, handle =>
    let attributes := ((e.find? handle).map Live.attributes).getD []
    .obj (Entries.setAll attributes ((e.places handle).filterMap fun place =>
      let inside := e.children place
      if inside.isEmpty && place.slot ≠ .items then none
      else some (place.slot.name, .arr (inside.map (e.describe depth)))))

/-- The value that describes the questionnaire. -/
def toJson (e : Editor) : Json :=
  .obj [("version", e.version), ("items", .arr ((e.children .top).map (e.describe e.live.length)))]

/-- The questionnaire as a document. -/
def toDocument (e : Editor) : Except Failure Document := Document.load e.toJson

/-- The findings about the questionnaire as it stands. -/
def issues (e : Editor) : Except Failure (List Issue) := do (← e.toDocument).check

end Editor

end Questionnaire
