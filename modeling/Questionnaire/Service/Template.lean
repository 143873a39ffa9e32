/-
Templates.

Content is checked as a whole before it is stored, so that a save is all or nothing.
From the moment a template is sent to someone its content stays as it is: it is neither
edited nor, while it has instances, deleted.  It can always be copied and archived.
-/
import Questionnaire.Service.Basic
import Questionnaire.Service.Content
import Questionnaire.Editor.Edit
import Questionnaire.Text.Split

namespace Questionnaire.Service

/-- The template with an id.  What the session knows already is asked first, so that only a
plain value can be the id. -/
def findTemplate (id : Json) : Attempt Service Template := do
  let key ← Attempt.lift (Database.single id)
  if !Database.isPlain key then throw (.misfit .kind)
  match (← Attempt.lift (Database.id? key)).bind (← get).tables.template? with
  | some row => return row
  | none => throw (.notFound "Template" id)

/-- The template with an id, which nobody was sent. -/
def unsentTemplate (id : Json) : Attempt Service Template := do
  let row ← findTemplate id
  if ← read (·.isSent row.id) then throw .templateSent
  return row

/-- The text that a value counts for, without blanks around it; values that count as no
count as empty, and others than texts have nothing to trim. -/
def trimmed (v : Json) : Attempt Service String :=
  match v.orElse (.str "") with
  | .str s => return Text.trim s
  | _ => throw (.misfit .part)

/-- The name that a value gives a template. -/
def templateName (v : Json) : Attempt Service String := do
  let name ← trimmed v
  if name = "" then Attempt.refuse .nameRequired
  return name

/-- Changes a template in this session. -/
def setTemplate (id : Int) (f : Template → Template) : Attempt Service Unit :=
  change (·.modifyTemplate id f)

/-! ### Looking -/

/-- The templates, newest first; archived ones only if asked for. -/
def templates (archived : Bool) : Attempt Service (List Template) := do
  let rows := (← read (·.templates)).filter fun row => archived || !row.isArchived
  return rows.mergeSort fun a b =>
    b.createdAt.micros < a.createdAt.micros || (a.createdAt = b.createdAt && b.id ≤ a.id)

/-- The templates as values to send. -/
def listTemplates (archived : Bool) : Attempt Service Json := do
  let rows ← templates archived
  read fun t => .arr (rows.map fun row => .obj (t.templateMembers row ++ t.instanceCount row))

/-- A template as a value to send. -/
def showTemplate (id : Json) : Attempt Service Json := do
  let row ← findTemplate id
  read fun t =>
    .obj (t.templateMembers row ++ [("content", .str row.content)] ++ t.instanceCount row)

/-- What a respondent sees of a template before any answer. -/
def previewTemplate (id : Json) : Attempt Service Json := do
  let row ← findTemplate id
  Attempt.lift (Content.preview (.str row.content))

/-! ### Writing -/

/-- Stores a new template. -/
def createTemplate (name content admin description : Json) : Attempt Service Template := do
  let name ← templateName name
  let (content, _) ← Attempt.lift (Content.check content)
  let now ← time
  let description ← Attempt.lift (Database.column (description.orElse (.str "")))
  addForAndCommit admin fun createdBy tables => tables.addTemplate {
    id := 0, name, description, content, createdBy, createdAt := now, updatedAt := now }

/-- Whether a text or a list mentions a name. -/
def mentions (name : String) : Json → Bool
  | .str s => Text.occurs name.toList s.toList
  | .arr vs => vs.any (·.str? = some name)
  | _ => false

/-- What is to be changed.  A text or a list holds no changes; it is asked for the names of
the changes all the same, and has to have none. -/
def changesIn (data : Json) : Except Failure (Entries Json) :=
  match data with
  | .obj members => .ok members
  | .str _ | .arr _ =>
    if mentions "name" data || mentions "description" data then .error (.misfit .part)
    else if mentions "content" data then .error (.misfit .kind)
    else .ok []
  | _ => .error (.misfit .kind)

/-- Changes the name, the description or the content of a template that nobody was
sent.  Each is taken over as soon as it is checked; a description that no column holds is
noticed last, when everything is to be stored. -/
def updateTemplate (id data : Json) : Attempt Service Template := do
  let row ← unsentTemplate id
  let data ← Attempt.lift (changesIn data)
  if let some name := data.get? "name" then
    let name ← templateName name
    setTemplate row.id ({ · with name })
  let description := (data.get? "description").map fun v =>
    Database.column (v.orElse (.str ""))
  if let some (.ok description) := description then
    setTemplate row.id ({ · with description })
  if let some content := data.get? "content" then
    let (content, _) ← Attempt.lift (Content.check content)
    setTemplate row.id ({ · with content })
  if let some (.error failure) := description then
    rollback
    throw failure
  let now ← time
  setTemplate row.id ({ · with updatedAt := now })
  commit
  findTemplate (.int row.id)

/-- Deletes a template that has no instances. -/
def deleteTemplate (id : Json) : Attempt Service Unit := do
  let row ← findTemplate id
  if !(← read (·.instancesOf row.id)).isEmpty then throw .templateInUse
  change (·.dropTemplate row.id)
  commit

/-- Copies a template. -/
def duplicateTemplate (id admin : Json) : Attempt Service Template := do
  let source ← findTemplate id
  let now ← time
  addForAndCommit admin fun createdBy tables => tables.addTemplate {
    source with
    name := source.name ++ " (Copy)"
    createdBy
    createdAt := now
    updatedAt := now
    isArchived := false }

/-- Puts a template away, or brings it back. -/
def setArchived (id : Json) (archived : Bool) : Attempt Service Template := do
  let row ← findTemplate id
  if row.isArchived ≠ archived then
    let now ← time
    setTemplate row.id ({ · with isArchived := archived, updatedAt := now })
  commit
  findTemplate (.int row.id)

/-! ### Editing items -/

/-- Opens a template that nobody was sent for editing. -/
def openTemplate (id : Json) : Attempt Service (Template × Editor) := do
  let row ← unsentTemplate id
  let document ← Attempt.lift (Document.load (.str row.content))
  let editor ← Attempt.lift (Editor.ofDocument document)
  return (row, editor)

/-- Stores what was edited, if it may be stored. -/
def saveTemplate (id : Int) (editor : Editor) : Attempt Service Template := do
  let (content, _) ← Attempt.lift (Content.check editor.toJson)
  let now ← time
  setTemplate id ({ · with content, updatedAt := now })
  commit
  findTemplate (.int id)

/-- Where a new item goes and what it is. -/
structure NewItem where
  type : Json
  /-- The id of the item to put it in; null for the top level. -/
  parent : Json := .null
  slot : Json := .str "items"
  position : Editor.Position := .last
  /-- Attributes that replace those a new item starts with. -/
  attributes : Json := .null

/-- Adds an item with its first attributes to a questionnaire under work. -/
def NewItem.add (new : NewItem) : Attempt Editor Nat := do
  let editor ← get
  let parent ← match new.parent with
    | .null => pure none
    | id => do pure (some ((← Attempt.lift (editor.handleOf id)) : Int))
  let start ← Attempt.lift (editor.defaultItem new.type)
  let attributes ← match new.attributes.orElse (.obj []) with
    | .obj members => pure members
    | _ => throw (.misfit .kind)
  let raw := (start.setAll attributes).set "type" new.type
  Editor.add (.obj raw) parent new.slot new.position

/-- Adds an item to a template; gives the item and the template. -/
def addItem (id : Json) (new : NewItem) : Attempt Service (Entries Json × Template) := do
  let (row, editor) ← openTemplate id
  let (added, editor) := new.add.run editor
  let handle ← Attempt.lift added
  let row ← saveTemplate row.id editor
  let item ← Attempt.lift (editor.item handle)
  return (item, row)

/-- Removes an item, with all that it holds, from a template. -/
def removeItem (id item : Json) : Attempt Service Template := do
  let (row, editor) ← openTemplate id
  let handle ← Attempt.lift (editor.handleOf item)
  let (removed, editor) := (Editor.remove handle).run editor
  Attempt.lift removed
  saveTemplate row.id editor

end Questionnaire.Service
