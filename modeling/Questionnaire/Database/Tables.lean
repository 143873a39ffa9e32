/-
The tables.

Rows stand in order of their ids, and a new row takes the number after the greatest id
in its table.  A row is refused if the row that it belongs to is not there, or if it would
stand beside another with the same name, link or question.  Taking away an instance
takes away its answers.
-/
import Questionnaire.Database.Row
import Questionnaire.Failure

namespace Questionnaire

/-- Everything that is stored. -/
structure Tables where
  admins : List Admin := []
  templates : List Template := []
  instances : List Instance := []
  answers : List StoredAnswer := []
  deriving DecidableEq

namespace Tables

/-- The number after the greatest id. -/
def nextId (ids : List Int) : Int := ids.foldl max 0 + 1

/-! ### Looking -/

def admin? (t : Tables) (id : Int) : Option Admin := t.admins.find? (·.id = id)

def adminNamed? (t : Tables) (name : String) : Option Admin :=
  t.admins.find? (·.username = name)

def template? (t : Tables) (id : Int) : Option Template := t.templates.find? (·.id = id)

def instance? (t : Tables) (id : Int) : Option Instance := t.instances.find? (·.id = id)

def instanceAt? (t : Tables) (link : String) : Option Instance :=
  t.instances.find? (·.link = link)

/-- The instances of a template. -/
def instancesOf (t : Tables) (template : Int) : List Instance :=
  t.instances.filter (·.templateId = template)

/-- Whether a template was sent to anyone. -/
def isSent (t : Tables) (template : Int) : Bool :=
  (t.instancesOf template).any (·.sentAt.isSome)

/-- The answers of an instance. -/
def answersOf (t : Tables) (instanceId : Int) : List StoredAnswer :=
  t.answers.filter (·.instanceId = instanceId)

/-- Whether a row is the answer to a question of an instance. -/
def isAnswerTo (instanceId : Int) (question : String) (a : StoredAnswer) : Bool :=
  a.instanceId = instanceId && a.questionId = question

def answer? (t : Tables) (instanceId : Int) (question : String) : Option StoredAnswer :=
  t.answers.find? (isAnswerTo instanceId question)

/-! ### Adding -/

def addAdmin (t : Tables) (username : String) (now : Moment) : Except Failure (Admin × Tables) :=
  if (t.adminNamed? username).isSome then .error .constraint
  else
    let row : Admin := ⟨nextId (t.admins.map (·.id)), username, now, none⟩
    .ok (row, { t with admins := t.admins ++ [row] })

/-- Adds a template under a new id. -/
def addTemplate (t : Tables) (row : Template) : Except Failure (Template × Tables) :=
  if (t.admin? row.createdBy).isNone then .error .constraint
  else
    let row := { row with id := nextId (t.templates.map (·.id)) }
    .ok (row, { t with templates := t.templates ++ [row] })

/-- Adds an instance under a new id. -/
def addInstance (t : Tables) (row : Instance) : Except Failure (Instance × Tables) :=
  if (t.admin? row.createdBy).isNone || (t.template? row.templateId).isNone ||
      (t.instanceAt? row.link).isSome then .error .constraint
  else
    let row := { row with id := nextId (t.instances.map (·.id)) }
    .ok (row, { t with instances := t.instances ++ [row] })

/-- Adds an answer under a new id. -/
def addAnswer (t : Tables) (row : StoredAnswer) : Except Failure (StoredAnswer × Tables) :=
  if (t.instance? row.instanceId).isNone || (t.answer? row.instanceId row.questionId).isSome then
    .error .constraint
  else
    let row := { row with id := nextId (t.answers.map (·.id)) }
    .ok (row, { t with answers := t.answers ++ [row] })

/-! ### Changing -/

def modifyAdmin (t : Tables) (id : Int) (f : Admin → Admin) : Tables :=
  { t with admins := t.admins.map fun row => if row.id = id then f row else row }

def modifyTemplate (t : Tables) (id : Int) (f : Template → Template) : Tables :=
  { t with templates := t.templates.map fun row => if row.id = id then f row else row }

def modifyInstance (t : Tables) (id : Int) (f : Instance → Instance) : Tables :=
  { t with instances := t.instances.map fun row => if row.id = id then f row else row }

/-- An answer written once more. -/
def renewed (value : Option String) (now : Moment) (a : StoredAnswer) : StoredAnswer :=
  { a with value, version := a.version.next, updatedAt := now }

/-- Writes an answer once more, unless it is not there or its version is greater than the
given one. -/
def writeAnswer? (t : Tables) (instanceId : Int) (question : String) (value : Option String)
    (version : Int) (now : Moment) : Option Tables :=
  let isHit (a : StoredAnswer) : Bool := isAnswerTo instanceId question a && a.version.atMost version
  if t.answers.any isHit then
    some { t with answers := t.answers.map fun a => if isHit a then renewed value now a else a }
  else none

/-! ### Taking away -/

def dropTemplate (t : Tables) (id : Int) : Tables :=
  { t with templates := t.templates.filter (·.id ≠ id) }

/-- Takes away an instance and its answers. -/
def dropInstance (t : Tables) (id : Int) : Tables :=
  { t with
    instances := t.instances.filter (·.id ≠ id)
    answers := t.answers.filter (·.instanceId ≠ id) }

/-! ### As values to send -/

/-- Who wrote or sent something, null if that is not known. -/
def authorJson (t : Tables) (id : Int) : Json := .ofText? ((t.admin? id).map (·.username))

/-- A template without its content. -/
def templateMembers (t : Tables) (row : Template) : Entries Json :=
  [("id", .int row.id), ("name", .str row.name), ("description", .str (row.description.getD "")),
    ("created_by", .int row.createdBy), ("created_by_username", t.authorJson row.createdBy),
    ("created_at", .str row.createdAt.iso), ("updated_at", .str row.updatedAt.iso),
    ("is_archived", .bool row.isArchived)]

/-- A template with its content. -/
def templateJson (t : Tables) (row : Template) : Json :=
  .obj (t.templateMembers row ++ [("content", .str row.content)])

/-- How many instances a template has, as a member to send. -/
def instanceCount (t : Tables) (row : Template) : Entries Json :=
  [("instance_count", .int (t.instancesOf row.id).length)]

def instanceMembers (t : Tables) (row : Instance) : Entries Json :=
  [("id", .int row.id), ("template_id", .int row.templateId),
    ("template_name", .ofText? ((t.template? row.templateId).map (·.name))),
    ("unique_link", .str row.link), ("target_name", .str row.targetName),
    ("target_email", .str row.targetEmail), ("created_by", .int row.createdBy),
    ("created_by_username", t.authorJson row.createdBy),
    ("created_at", .str row.createdAt.iso), ("sent_at", Moment.toJson? row.sentAt),
    ("submitted_at", Moment.toJson? row.submittedAt), ("is_locked", .bool row.isLocked),
    ("status", .str row.status.name), ("version", .int row.version)]

/-- The answers of an instance under their questions, in the order of the first writes. -/
def records (t : Tables) (instanceId : Int) : Entries Json :=
  (t.answersOf instanceId).map fun a => (a.questionId, .obj a.record)

/-- All rows in a word each, for logs. -/
def labels (t : Tables) : List String :=
  t.admins.map Admin.label ++ t.templates.map Template.label ++
    t.instances.map Instance.label ++ t.answers.map StoredAnswer.label

end Tables

end Questionnaire
