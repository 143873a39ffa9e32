/-
What a request asks for.

A path and a method together name an endpoint.  Numbers in a path are ids, and a link or
the id of an item is any part that is not empty.  Asking for the head of something is asking
for it, and every path tells which methods it takes.  A path in which several slashes stand in a
row leads on to the one without them.  No endpoint is there for lasting connections, and none for
an id too long to read; what is said then depends on the methods that were looked at.
-/
import Questionnaire.Api.Target

namespace Questionnaire.Api

/-- Something that can be asked for. -/
inductive Endpoint
  | listTemplates | createTemplate | previewContent | validateContent
  | showTemplate (id : Nat) | updateTemplate (id : Nat) | deleteTemplate (id : Nat)
  | duplicateTemplate (id : Nat) | archiveTemplate (id : Nat) | previewTemplate (id : Nat)
  | addItem (id : Nat) | removeItem (id : Nat) (item : String)
  | listInstances | createInstance
  | showInstance (id : Nat) | deleteInstance (id : Nat) | unlockInstance (id : Nat)
  | fill (link : String) | save (link : String) | submit (link : String)
  | checkAccess | ready | live
  /-- A file, of which there are none. -/
  | file
  deriving DecidableEq, Repr

namespace Endpoint

/-- Whether the endpoint is for those who manage questionnaires. -/
def isManaged : Endpoint → Bool
  | .fill _ | .save _ | .submit _ | .checkAccess | .ready | .live | .file => false
  | _ => true

/-- Whether the endpoint reads the body of the request. -/
def readsBody : Endpoint → Bool
  | .createTemplate | .previewContent | .validateContent | .updateTemplate _
  | .archiveTemplate _ | .addItem _ | .createInstance | .save _ => true
  | _ => false

end Endpoint

/-- Whether a part of a path writes an id. -/
def isId (part : String) : Bool :=
  part ≠ "" && part.toList.all fun c => (Text.digit? c).isSome

/-- The id that a part of a path writes, unless it is too long to read. -/
def readId? (part : String) : Option Nat := Text.natural? part.toList

/-- The methods that stand for one endpoint each, in the order in which they are looked at; none
for an endpoint whose id cannot be read. -/
abbrev Methods := List (String × Option Endpoint)

/-- What can be asked for about a template. -/
def templateMethods (id : Option Nat) : List String → Methods
  | [] =>
    [("GET", id.map .showTemplate), ("PUT", id.map .updateTemplate),
      ("DELETE", id.map .deleteTemplate)]
  | ["duplicate"] => [("POST", id.map .duplicateTemplate)]
  | ["archive"] => [("POST", id.map .archiveTemplate)]
  | ["preview"] => [("GET", id.map .previewTemplate)]
  | ["items"] => [("POST", id.map .addItem)]
  | ["items", item] => if item = "" then [] else [("DELETE", id.map (.removeItem · item))]
  | _ => []

/-- What can be asked for about an instance. -/
def instanceMethods (id : Option Nat) : List String → Methods
  | [] => [("GET", id.map .showInstance), ("DELETE", id.map .deleteInstance)]
  | ["unlock"] => [("POST", id.map .unlockInstance)]
  | _ => []

/-- What can be asked for under a link. -/
def linkMethods (link : String) : List String → Methods
  | [] => [("GET", some (.fill link))]
  | ["save"] => [("POST", some (.save link))]
  | ["submit"] => [("POST", some (.submit link))]
  | _ => []

/-- Whether the parts of a path can name a file: something stands in front, and no line ends
behind the first character. -/
def isFile (parts : List String) : Bool :=
  match ("/".intercalate parts).toList with
  | [] => false
  | c :: rest => c ≠ '/' && !rest.contains '\n'

/-- What can be asked for under a path, by its parts. -/
def methodsAt : List String → Methods
  | ["", "api", "v1", "templates"] =>
    [("GET", some .listTemplates), ("POST", some .createTemplate)]
  | ["", "api", "v1", "templates", "preview"] => [("POST", some .previewContent)]
  | ["", "api", "v1", "templates", "validate"] => [("POST", some .validateContent)]
  | "" :: "api" :: "v1" :: "templates" :: id :: rest =>
    if isId id then templateMethods (readId? id) rest else []
  | ["", "api", "v1", "instances"] =>
    [("GET", some .listInstances), ("POST", some .createInstance)]
  | "" :: "api" :: "v1" :: "instances" :: id :: rest =>
    if isId id then instanceMethods (readId? id) rest else []
  | "" :: "api" :: "v1" :: "fill" :: link :: rest => if link = "" then [] else linkMethods link rest
  | ["", "api", "v1", "auth", "check"] => [("GET", some .checkAccess)]
  | ["", "api", "v1", "health", "ready"] => [("GET", some .ready)]
  | ["", "api", "v1", "health", "live"] => [("GET", some .live)]
  | "" :: "static" :: file => if isFile file then [("GET", some .file)] else []
  | _ => []

/-- What a path and a method lead to. -/
inductive Destination
  | endpoint (e : Endpoint)
  /-- The methods that the path takes. -/
  | options
  /-- The path with single slashes. -/
  | moved (path : String)
  | wrongMethod
  /-- A lasting connection, where only requests are answered. -/
  | requestsOnly
  | nowhere
  deriving DecidableEq, Repr

/-- Whether a method that is sent is taken where another one is offered. -/
def isTaken (sent offered : String) : Bool :=
  sent = "OPTIONS" || sent = offered || (sent = "HEAD" && offered = "GET")

/-- What a method leads to, of those that a path takes.  Where the id cannot be read there is
nothing, and if other methods were looked at before, then it is the method that is wrong. -/
def choose? (methods : Methods) (method : String) : Option Destination :=
  match methods.dropWhile fun m => !isTaken method m.1 with
  | [] => none
  | (_, some endpoint) :: _ => some (if method = "OPTIONS" then .options else .endpoint endpoint)
  | (_, none) :: rest =>
    some (if rest.length + 1 = methods.length then .nowhere else .wrongMethod)

/-- A path in which slashes in a row are one. -/
def mergeSlashes : List Char → List Char
  | [] => []
  | c :: rest =>
    match c, mergeSlashes rest with
    | '/', '/' :: merged => '/' :: merged
    | c, merged => c :: merged

/-- What can be asked for under a path as it is written. -/
def methodsUnder (path : String) : Methods := methodsAt (Text.parts '/' path)

/-- A path without slashes in a row. -/
def merged (path : String) : String := String.ofList (mergeSlashes path.toList)

/-- Where a path and a method lead. -/
def route (method path : String) : Destination :=
  match choose? (methodsUnder path) method with
  | some destination => destination
  | none =>
    let others := methodsUnder (merged path)
    if (choose? others method).isSome then .moved (merged path)
    else if (methodsUnder path).isEmpty && others.isEmpty then .nowhere
    else .wrongMethod

/-- Where a path and a method lead for a lasting connection. -/
def routeUpgrade (method path : String) : Destination :=
  let methods := methodsUnder path ++ methodsUnder (merged path)
  if methods.isEmpty then .nowhere
  else if methods.all (isTaken method ·.1) then .requestsOnly
  else .wrongMethod

example : route "GET" "/api/v1/templates/12" = .endpoint (.showTemplate 12) := by decide +kernel
example : route "GET" "/api/v1/templates/" = .nowhere := by decide +kernel
example : route "GET" "/api/v1/templates/preview" = .wrongMethod := by decide +kernel
example : route "POST" "/api/v1///fill/x/save" = .moved "/api/v1/fill/x/save" := by decide +kernel
example : routeUpgrade "GET" "/api/v1/templates/1" = .wrongMethod := by decide +kernel

end Questionnaire.Api
