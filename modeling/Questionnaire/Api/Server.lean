/-
Serving requests.

A body that is too long, or that is not announced as JSON, is refused before anything else
is looked at.  Then the path and the method are looked up, whoever manages questionnaires is
asked for a key, and the endpoint answers.  What a request did not commit is forgotten, and
every response gets the same protective headers.
-/
import Questionnaire.Api.Handler

namespace Questionnaire.Api

/-! ### Headers -/

/-- Where the parts of a page may come from. -/
def contentPolicy : String :=
  "; ".intercalate ["default-src 'self'", "script-src 'self'", "style-src 'self' 'unsafe-inline'",
    "img-src 'self' data:", "connect-src 'self'", "frame-ancestors 'none'", "base-uri 'self'",
    "form-action 'self'"]

/-- The headers that protect every response. -/
def protection : Entries String :=
  [("Content-Security-Policy", contentPolicy), ("X-Content-Type-Options", "nosniff"),
    ("X-Frame-Options", "DENY"),
    ("Strict-Transport-Security", "max-age=31536000; includeSubDomains"),
    ("Referrer-Policy", "no-referrer"),
    ("Permissions-Policy", "camera=(), microphone=(), geolocation=(), payment=()")]

/-- The methods that pages of other origins may use. -/
def sharedMethods : List String := ["DELETE", "GET", "HEAD", "OPTIONS", "PATCH", "POST", "PUT"]

/-- The headers that a page of another origin may send, of those it asks for. -/
def sharedHeaders (asked : String) : String :=
  ", ".intercalate (((Text.parts ',' asked).map Text.trim).mergeSort (· ≤ ·))

/-- What a page of another origin is told when it asks before it sends a request.  It asks for
a method by any part of the list of methods. -/
def preflight (r : Request) : Entries String :=
  let methods := ", ".intercalate sharedMethods
  let method := Text.upper ((r.header? "Access-Control-Request-Method").getD "")
  if r.method = "OPTIONS" && method ≠ "" && Text.occurs method.toList methods.toList then
    [("Access-Control-Allow-Headers",
        match r.header? "Access-Control-Request-Headers" with
        | some asked => if asked = "" then "" else sharedHeaders asked
        | none => ""),
      ("Access-Control-Allow-Methods", methods)]
  else []

/-- The headers that let pages of other origins use the service, though not from a network of
their own. -/
def sharing (r : Request) : Entries String :=
  let origin := (r.header? "Origin").getD ""
  let allowed := ("Access-Control-Allow-Origin", if origin = "" then "*" else origin)
  let network := if r.header? "Access-Control-Request-Private-Network" = some "true" then
      [("Access-Control-Allow-Private-Network", "false")]
    else []
  let vary := if origin = "" || origin = "*" then [] else [("Vary", "Origin")]
  (allowed :: network ++ preflight r ++ vary).filter (·.2 ≠ "")

/-- What a response holds, in a word. -/
def kindOf : Body → String
  | .json _ => "application/json"
  | .text _ => "text/html; charset=utf-8"

/-- All headers of a response.  What respondents see is not to be kept. -/
def headersOf (around : Surroundings) (r : Request) (response : Response) : Entries String :=
  let own := response.headers.set "Content-Type" (kindOf response.body)
  let secret : Entries String :=
    if r.target.path.startsWith "/api/v1/fill/" then [("Cache-Control", "no-store")] else []
  let id := match r.header? "X-Request-ID" with
    | some id => if id = "" then around.requestId else id
    | none => around.requestId
  let length := Text.decimal response.body.sent.utf8ByteSize
  own.setAll (("Content-Length", length) :: sharing r ++ protection ++ secret ++
    [("X-Request-ID", id)])

/-! ### Guards -/

/-- Whether a body is longer than the limit; a limit of zero does not count here. -/
def isTooLong (s : Settings) (r : Request) : Bool :=
  match s.limit with
  | some limit => limit ≠ 0 && r.length ≠ 0 && limit < r.length
  | none => false

/-- Whether reading the body would exceed the limit. -/
def exceeds (s : Settings) (r : Request) : Bool :=
  isJson r && r.length ≠ 0 && s.limit.any fun limit => limit < (r.length : Int)

/-- Whether a body is not announced as JSON where it has to be.  Forms of other pages
cannot send JSON. -/
def isForeign (r : Request) : Bool :=
  ["POST", "PUT", "PATCH"].contains r.method && r.target.path.startsWith "/api/" &&
    r.length ≠ 0 && !Text.occurs "json".toList r.contentType.toList

def tooLong : Response := .error "Request body too large" 413

/-! ### Answers that are no endpoint's -/

/-- A text as it stands in a page. -/
def escape (s : String) : String :=
  String.ofList (s.toList.flatMap fun c =>
    if c = '&' then "&amp;".toList
    else if c = '<' then "&lt;".toList
    else if c = '>' then "&gt;".toList
    else if c = '"' then "&#34;".toList
    else if c = '\'' then "&#39;".toList
    else [c])

/-- A page with a title, a heading and what follows. -/
def page (title heading rest : String) : Body :=
  .text ("<!doctype html>\n<html lang=en>\n<title>" ++ title ++ "</title>\n<h1>" ++ heading ++
    "</h1>\n<p>" ++ rest)

/-- A page that leads to another address.  It shows the query as it was sent. -/
def moved (r : Request) (path : String) : Response :=
  let address (query : String) : String :=
    r.target.scheme ++ "://" ++ r.host ++ Text.quote pathMarks path ++
      (if query = "" then "" else "?" ++ query)
  let shown := escape (address r.target.queryString)
  { status := 308
    body := page "Redirecting..." "Redirecting..." (
      "You should be redirected automatically to the target URL: " ++
      "<a href=\"" ++ shown ++ "\">" ++ shown ++ "</a>. If not, click the link.\n")
    headers := [("Location", address (Text.quote queryMarks r.target.queryString))] }

/-- The answer to a request that is none. -/
def notUnderstood : Response :=
  { status := 400
    body := page "400 Bad Request" "Bad Request"
      "The browser (or proxy) sent a request that this server could not understand.</p>\n" }

/-! ### Serving -/

/-- Answers a request to an endpoint. -/
def visit (s : Settings) (around : Surroundings) (r : Request) (e : Endpoint) :
    Attempt Service Response := do
  let data := if e.readsBody then jsonBody r else []
  let refused := if e.readsBody && exceeds s r then some tooLong else none
  if e.isManaged then
    match ← authenticate s.gate r with
    | .error response => return response
    | .ok admin => refused.elim (manage admin r data e) pure
  else refused.elim (answer s around r data e) pure

/-- Answers a request, without the headers that all responses get. -/
def respond (s : Settings) (around : Surroundings) (r : Request) : Attempt Service Response := do
  if isTooLong s r then return tooLong
  if isForeign r then return .error "Content-Type must be application/json" 415
  if !Host.isLabelled r.host.toList then return notUnderstood
  match (if r.isUpgrade then routeUpgrade else route) r.method r.target.path with
  | .nowhere => return nowhere r
  | .requestsOnly => return notUnderstood
  | .wrongMethod => return .error "Method not allowed" 405
  | .moved path => return moved r path
  | .options => return { body := .text "" }
  | .endpoint e => visit s around r e

/-- Serves a request: its answer, whatever went wrong, and the service after it.  Where only the
head was asked for, the length is that of the body left out. -/
def serve (s : Settings) (around : Surroundings) (r : Request) (service : Service) :
    Response × Service :=
  let (result, service) := (Service.request (respond s around r)).run service
  let response := match result with
    | .ok response => response
    | .error failure => ofFailure failure
  let response := { response with headers := headersOf around r response }
  (if r.sentMethod = "HEAD" then { response with body := .text "" } else response, service)

end Questionnaire.Api
