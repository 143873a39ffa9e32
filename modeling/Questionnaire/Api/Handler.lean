/-
What the endpoints do.

Each endpoint reads what it needs of the request, asks the service, and answers with a value.
A body that is no object counts as an empty one, so that what is missing is what is
complained about.
-/
import Questionnaire.Api.Access
import Questionnaire.Api.Route
import Questionnaire.Json.Encoding

namespace Questionnaire.Api

/-- What the answers depend on besides the service. -/
structure Settings where
  gate : Gate := {}
  /-- The most bytes that a body may have; no limit without it. -/
  limit : Option Int := none
  debug : Bool := false
  testing : Bool := false

/-- What a single request takes from outside. -/
structure Surroundings where
  /-- The name that a request gets if it brings none. -/
  requestId : String := ""
  /-- How long the database took to answer, in milliseconds. -/
  latency : Json := .int 0

/-! ### Reading a request -/

/-- The kind of a body, without its parameters. -/
def mediaType (r : Request) : String :=
  let (kind, _) := Text.splitFirst ';' r.contentType.toList
  Text.lower (Text.trim (String.ofList kind))

/-- Whether the body is announced as JSON. -/
def isJson (r : Request) : Bool :=
  let kind := mediaType r
  kind = "application/json" || (kind.startsWith "application/" && kind.endsWith "+json")

/-- A text without the byte order mark that may stand in front of it. -/
def withoutMark (s : String) : String :=
  match s.toList with
  | '\uFEFF' :: rest => String.ofList rest
  | _ => s

/-- The text of the body, if its bytes write one. -/
def bodyText? (r : Request) : Option String :=
  let bytes := Text.toBytes r.content
  match Json.Encoding.ofFront bytes with
  | .utf8 => some (withoutMark r.content)
  | encoding => encoding.decode? bytes

/-- The members of the body; none if the body is no object. -/
def jsonBody (r : Request) : Entries Json :=
  if !isJson r then []
  else
    match (bodyText? r).map Json.parse with
    | some (.ok v) => v.members
    | _ => []

/-- A member of a body, null where it is missing. -/
def member (data : Entries Json) (name : String) : Json := (data.get? name).getD .null

/-- A request that succeeded. -/
def success (members : Entries Json) (status : Nat := 200) : Response :=
  .object (("success", .bool true) :: members) status

/-- A template as a value to send. -/
def templateJson (row : Template) : Attempt Service Json := Service.read (·.templateJson row)

/-- A new template as a response. -/
def created (row : Template) : Attempt Service Response := do
  return success [("id", .int row.id), ("template", ← templateJson row)] 201

/-- A changed template as a response. -/
def changed (row : Template) : Attempt Service Response := do
  return success [("template", ← templateJson row)]

/-! ### Templates -/

def createTemplate (admin : Admin) (data : Entries Json) : Attempt Service Response := do
  let name ← Service.trimmed (member data "name")
  let content := member data "content"
  if name = "" || !content.truthy then
    return problem .required "Name and content required"
  let row ← Service.createTemplate (.str name) content (.int admin.id)
    ((member data "description").orElse (.str ""))
  created row

def updateTemplate (id : Nat) (data : Entries Json) : Attempt Service Response := do
  if (data.get? "content").any (!·.truthy) then
    return problem .required "content cannot be empty"
  changed (← Service.updateTemplate (.int id) (.obj data))

def archiveTemplate (id : Nat) (data : Entries Json) : Attempt Service Response := do
  let row ← Service.setArchived (.int id) ((member data "archive").flag true)
  let members ← Service.read (·.templateMembers row)
  return success [("template", .obj members)]

/-- Answers about content that a request brings. -/
def onContent (data : Entries Json) (f : Json → Except Failure Json) : Attempt Service Response := do
  let content := member data "content"
  if !content.truthy then return problem .required "content is required"
  return .json (← Attempt.lift (f content))

/-- Whether a value can be a position: none at all, or a whole number. -/
def isPosition : Json → Bool
  | .null | .int _ => true
  | _ => false

def addItem (id : Nat) (data : Entries Json) : Attempt Service Response := do
  let type ← Service.trimmed (member data "type")
  if type = "" then return problem .required "Item type required"
  let position := member data "position"
  if !isPosition position then return problem .invalid "position must be an integer"
  let attributes := member data "attrs"
  if !attributes.isNull && !attributes.isObject then
    return problem .invalid "attrs must be an object"
  let (item, row) ← Service.addItem (.int id) {
    type := .str type
    parent := member data "parent_id"
    slot := (member data "slot").orElse (.str "items")
    position := Editor.Position.ofJson position
    attributes }
  return success [("item", .obj item), ("template", ← templateJson row)] 201

/-! ### Instances -/

def createInstance (admin : Admin) (data : Entries Json) : Attempt Service Response := do
  let id := member data "template_id"
  if !id.truthy then return problem .required "Template ID required"
  match id.whole with
  | .error .range => throw (.misfit .range)
  | .error _ => return problem .invalid "template_id must be an integer"
  | .ok id =>
    let row ← Service.createInstance (.int id) (.int admin.id)
      ((member data "target_name").orElse (.str ""))
      ((member data "target_email").orElse (.str ""))
    return success (← Service.showSent row) 201

def unlockInstance (id : Nat) : Attempt Service Response := do
  let row ← Service.unlock (.int id)
  let members ← Service.read (·.instanceMembers row)
  return success [("instance", .obj members)]

/-! ### Filling in -/

/-- The response to a save. -/
def saved (outcome : SaveOutcome) : Response :=
  match outcome with
  | .accepted version updatedAt =>
    .object [("success", .bool true), ("version", version), ("updated_at", updatedAt)]
  | .conflict c => .json c.toJson 409
  | .rejected .unknownLink _ => problem .notFound "Questionnaire not found"
  | .rejected _ message =>
    problem .locked (message.orElse (.str "Questionnaire is locked")).words
  | .failed _ => problem .internal "Unexpected save outcome"

def save (link : String) (data : Entries Json) : Attempt Service Response := do
  match member data "question_id" with
  | .str id =>
    if id = "" then return problem .required "Question ID required"
    return saved (← Service.save (.str link) (.str id) (member data "answer_value")
      ((data.get? "version").getD (.int 0)))
  | _ => return problem .required "Question ID required"

/-! ### Access and health -/

/-- The account that a request acts under, as a value to send. -/
def checkAccess (g : Gate) (r : Request) : Attempt Service Response := do
  match ← authenticate g r with
  | .ok admin =>
    return .object [("authenticated", .bool true), ("admin_id", .int admin.id),
      ("username", .str admin.username)]
  | .error _ =>
    return .object [("authenticated", .bool false), ("admin_id", .null), ("username", .null)]

/-- The state of the service and its database. -/
def live (s : Settings) (around : Surroundings) : Attempt Service Response := do
  let tables := (← get).tables
  return .object [("status", .str "healthy"), ("checks", .obj [
    ("app", .obj [("name", .str "VSAQ Questionnaire Service"), ("debug", .bool s.debug),
      ("testing", .bool s.testing)]),
    ("database", .obj [("status", .str "ok"), ("latency_ms", around.latency)]),
    ("questionnaires", .obj [("templates", .int tables.templates.length),
      ("open_instances", .int (tables.instances.countP (!·.isLocked)))])])]

/-! ### All endpoints -/

/-- The answer to a request for a path that leads nowhere. -/
def nowhere (r : Request) : Response :=
  .error "Not found" 404 [("path", .str r.target.path)]

/-- Answers someone who manages questionnaires. -/
def manage (admin : Admin) (r : Request) (data : Entries Json) : Endpoint → Attempt Service Response
  | .listTemplates => do
    let archived := Json.flag false (.str ((r.argument? "archived").getD ""))
    return .json (← Service.listTemplates archived)
  | .createTemplate => createTemplate admin data
  | .showTemplate id => do return .json (← Service.showTemplate (.int id))
  | .updateTemplate id => updateTemplate id data
  | .deleteTemplate id => do
    Service.deleteTemplate (.int id)
    return success []
  | .duplicateTemplate id => do created (← Service.duplicateTemplate (.int id) (.int admin.id))
  | .archiveTemplate id => archiveTemplate id data
  | .previewTemplate id => do return .json (← Service.previewTemplate (.int id))
  | .previewContent => onContent data Content.preview
  | .validateContent => onContent data fun content => do
    return (← Content.examine content).toJson
  | .addItem id => addItem id data
  | .removeItem id item => do changed (← Service.removeItem (.int id) (.str item))
  | .listInstances => do return .json (← Service.listInstances)
  | .createInstance => createInstance admin data
  | .showInstance id => do return .json (← Service.showInstance (.int id))
  | .deleteInstance id => do
    Service.deleteInstance (.int id)
    return success []
  | .unlockInstance id => unlockInstance id
  | _ => return nowhere r

/-- Answers anybody. -/
def answer (s : Settings) (around : Surroundings) (r : Request) (data : Entries Json) :
    Endpoint → Attempt Service Response
  | .fill link => do return .json (← Service.respondent (.str link))
  | .save link => save link data
  | .submit link => do
    let _ ← Service.submit (.str link)
    return success []
  | .checkAccess => checkAccess s.gate r
  | .ready => return .object [("status", .str "ok")]
  | .live => live s around
  | _ => return nowhere r

end Questionnaire.Api
