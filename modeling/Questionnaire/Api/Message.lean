/-
Requests and responses.

Every error is answered by a body that tells it in words and, where it has one, under a
code; the code gives the status.  Details come along only where there are some.
-/
import Questionnaire.Api.Target
import Questionnaire.Json.Writer
import Questionnaire.Text.Flag
import Questionnaire.Failure

namespace Questionnaire.Api

/-! ### Lists in headers -/

/-- The items between commas, as far as they are read; the item so far is reversed.  A comma in
quotes parts nothing, and in quotes a backslash stands for what follows it. -/
def readItems (quoted : Bool) (item : List Char) : List Char → List (List Char)
  | [] => if item.isEmpty then [] else [item.reverse]
  | c :: rest =>
    if quoted && c = '\\' then
      match rest with
      | [] => readItems true item []
      | d :: rest => readItems true (d :: item) rest
    else if c = ',' && !quoted then item.reverse :: readItems false [] rest
    else readItems (quoted ≠ (c = '"')) (c :: item) rest

/-- A text without the quotes around it. -/
def withoutQuotes (cs : List Char) : List Char :=
  if 2 ≤ cs.length && cs.head? = some '"' && cs.getLast? = some '"' then cs.tail.dropLast else cs

/-- The items of a list in a header. -/
def listItems (s : String) : List String :=
  (readItems false [] s.toList).map fun item =>
    String.ofList (withoutQuotes (Text.trimBy Text.isBlank item))

example : listItems "gzip, \"a,\\b\" ,CHUNKED" = ["gzip", "a,b", "CHUNKED"] := by decide +kernel

/-! ### Requests -/

/-- A request to the service. -/
structure Request where
  /-- The method as it was sent. -/
  sentMethod : String := "GET"
  target : Target
  headers : Entries String := []
  contentType : String := ""
  body : String := ""

namespace Request

/-- The request with these parts, if they can be sent: the address can be read, and no header
holds a line end.  The type of the content is that of the first header for it unless it is
given. -/
def ofParts (method address : String) (headers : Entries String) (contentType : Option String)
    (body : String) : Except Misfit Request := do
  let target ← Target.read address
  let header := headers.find? fun h => Text.lower h.1 = "content-type"
  let contentType := (contentType.orElse fun _ => header.map (·.2)).getD ""
  let breaks (s : String) : Bool := s.contains '\n' || s.contains '\r'
  if breaks contentType || headers.any (breaks ·.2) then throw .content
  return { sentMethod := method, target, headers, contentType, body }

/-- The method as it is understood: capitals do not matter. -/
def method (r : Request) : String := Text.upper r.sentMethod

/-- The name of a header as it is compared: capitals do not matter, and a line under a letter
stands for a hyphen. -/
def headerKey (name : String) : String :=
  String.ofList ((Text.lower name).toList.map fun c => if c = '_' then '-' else c)

/-- The value of a header; several of one name are joined by commas. -/
def header? (r : Request) (name : String) : Option String :=
  match r.headers.filter fun h => headerKey h.1 = headerKey name with
  | [] => none
  | found => some (", ".intercalate (found.map (·.2)))

/-- The first value under a name in the query. -/
def argument? (r : Request) (name : String) : Option String := r.target.query.lookup name

/-- The name under which the service was called; empty if it cannot be asked by that name. -/
def host (r : Request) : String :=
  let name := ((r.header? "Host").getD r.target.server).toList
  let name := Host.withoutUsualPort r.target.scheme name
  if Host.isAskable name then Text.lower (String.ofList name) else ""

/-- Whether the request wants to open a lasting connection, by its scheme or by its headers. -/
def isUpgrade (r : Request) : Bool :=
  let wishes := Text.parts ',' (Text.lower ((r.header? "Connection").getD ""))
  ["ws", "wss"].contains r.target.scheme ||
    (wishes.any (Text.trim · = "upgrade") &&
      Text.lower ((r.header? "Upgrade").getD "") = "websocket")

/-- Whether the body comes in chunks of which nobody says how long they are.  Such a body is
not read. -/
def isChunked (r : Request) : Bool :=
  (listItems ((r.header? "Transfer-Encoding").getD "")).any (Text.lower · = "chunked")

/-- The body as far as it is read. -/
def content (r : Request) : String := if r.isChunked then "" else r.body

/-- The bytes of the body that are read. -/
def length (r : Request) : Nat := r.content.utf8ByteSize

end Request

/-! ### Responses -/

/-- What a response holds. -/
inductive Body
  | json (v : Json)
  | text (s : String)

/-- The text of what a response holds. -/
def Body.sent : Body → String
  | .json v => Json.write { ascii := true, compact := true } v ++ "\n"
  | .text s => s

/-- An answer to a request. -/
structure Response where
  status : Nat := 200
  body : Body
  headers : Entries String := []

namespace Response

/-- A response that holds a value. -/
def json (v : Json) (status : Nat := 200) : Response := { status, body := .json v }

/-- A response that is an object with these members. -/
def object (members : Entries Json) (status : Nat := 200) : Response :=
  json (.obj members) status

/-- An error without a code. -/
def error (message : String) (status : Nat) (more : Entries Json := []) : Response :=
  object (("error", .str message) :: more) status

end Response

/-! ### Errors with a code -/

/-- What kind of error a response tells. -/
inductive Code
  | required | invalid | malformed | template | rule | notFound | locked | forbidden | internal
  | other (name : String)
  deriving DecidableEq, Repr

namespace Code

def name : Code → String
  | .required => "ERR_VALIDATION_REQUIRED"
  | .invalid => "ERR_VALIDATION_INVALID"
  | .malformed => "ERR_MALFORMED_DOCUMENT"
  | .template => "ERR_TEMPLATE_INVALID"
  | .rule => "ERR_VALIDATION_RULE"
  | .notFound => "ERR_NOT_FOUND"
  | .locked => "ERR_LOCKED"
  | .forbidden => "ERR_FORBIDDEN"
  | .internal => "ERR_INTERNAL"
  | .other name => name

/-- All codes of this service. -/
def all : List Code :=
  [.required, .invalid, .malformed, .template, .rule, .notFound, .locked, .forbidden, .internal]

/-- The code with a name. -/
def ofName (name : String) : Code := (all.find? (·.name = name)).getD (.other name)

def status : Code → Nat
  | .required | .invalid | .malformed | .other _ => 400
  | .template | .rule => 422
  | .notFound => 404
  | .locked | .forbidden => 403
  | .internal => 500

end Code

/-- The response to an error; a status of its own goes before that of the code. -/
def problem (code : Code) (message : String) (details : Json := .null)
    (status : Option Nat := none) : Response :=
  Response.error message (status.getD code.status)
    (("code", .str code.name) :: if details.truthy then [("details", details)] else [])

/-- The response to what went wrong.  What nobody is expected to cause is told without any
word about it. -/
def ofFailure : Failure → Response
  | .malformed fault => problem .malformed fault.message
  | .refused rule =>
    problem (if rule.details.has "issues" then .template else .rule) rule.message
      (.obj rule.details)
  | .notFound resource _ => problem .notFound (resource ++ " not found")
  | .alreadySubmitted message => problem .locked message
  | .submittedKept => problem .forbidden Failure.submittedKept.message
  | .templateSent => problem .forbidden Failure.templateSent.message
  | .templateInUse => problem .forbidden Failure.templateInUse.message
  | _ => problem .internal "Internal server error"

end Questionnaire.Api
