/-
Answers kept on a server far away.

The client speaks to the respondent's side of a server and is itself a place that keeps
answers.  Only fetching is tried again, after one second and then after four: a broken
connection, a reply that cannot be read and a fault of the server are passing, every
other complaint is final.  A save is never sent twice, so that whoever saves decides
what to do when it is not known whether the first one arrived.
-/
import Questionnaire.Remote.Exchange
import Questionnaire.Fill.Store
import Questionnaire.Json.Whole

namespace Questionnaire.Remote

/-- A client of one server. -/
structure Client where
  /-- The address of the server, without a slash at the end. -/
  base : String
  /-- The path under which the server answers, with a slash in front only. -/
  path : String
  /-- How long to wait for a reply, in seconds. -/
  timeout : Json
  /-- How often fetching is tried again. -/
  retries : Int

namespace Client

/-- The client of the server at an address. -/
def ofUrl (url : String) (path : String := "/api/v1") (timeout : Json := .int 10)
    (retries : Int := 2) : Client :=
  { base := Text.dropTrailing '/' url, path := "/" ++ Text.strip '/' path, timeout, retries }

/-- The client of the server at an address, if there is an address. -/
def ofUrl? (url : String) : Option Client := if url = "" then none else some (ofUrl url)

/-- The address of a questionnaire, or of an action on it. -/
def url (c : Client) (link : String) (action : String := "") : String :=
  let address := c.base ++ c.path ++ "/fill/" ++ link
  if action = "" then address else address ++ "/" ++ action

/-! ### Fetching -/

/-- What went wrong so far. -/
structure Trouble where
  message : String := "Unknown error"
  /-- The status of the last reply, null before there is one. -/
  status : Json := .null

/-- How an attempt to fetch ends. -/
inductive Attempted
  /-- With a value, or with a failure that is final. -/
  | done (result : Except Failure Json)
  /-- With trouble that may pass. -/
  | again (trouble : Trouble)

/-- What a reply means to someone who fetches. -/
def readReply (r : Reply) : Attempted :=
  if r.status = 404 then .done (.error (.notFound "Questionnaire" .null))
  else if r.isOk then
    match r.json with
    | .ok v => .done (.ok v)
    | .error e =>
      if e.fault = .longNumeral then .done (.error (.misfit .content))
      else .again ⟨reason e.message, .int r.status⟩
  else if r.status < 500 then .done (.error (.remote r.summary (.int r.status)))
  else .again ⟨r.summary, .int r.status⟩

/-- What an exchange means to someone who fetches, after earlier trouble. -/
def readExchange (before : Trouble) : Except String Reply → Attempted
  | .ok r => readReply r
  | .error text => .again { before with message := reason text }

/-- How long to wait after an attempt, by how many went before it. -/
def backoff (attempt : Nat) : Nat := if attempt = 0 then 1 else 4

variable {σ : Type}

/-- Fetches in at most `left` attempts, of which `made` were made before. -/
def fetchIn (t : Transport σ) (url : String) (made : Nat) (trouble : Trouble) :
    (left : Nat) → Attempt σ Json
  | 0 => throw (.remote trouble.message trouble.status)
  | left + 1 => do
    let exchange ← t.send (.get url)
    match readExchange trouble exchange with
    | .done result => Attempt.lift result
    | .again trouble =>
      if left ≠ 0 then t.pause (backoff made)
      fetchIn t url (made + 1) trouble left

/-- The questionnaire under a link. -/
def fetch (c : Client) (t : Transport σ) (link : Json) : Attempt σ Json :=
  fetchIn t (c.url link.words) 0 {} (c.retries + 1).toNat

/-! ### Saving -/

/-- The body of a save. -/
def saveBody (id value version : Json) : Json :=
  .obj [("question_id", id), ("answer_value", value), ("version", version)]

/-- The whole number under a name that a value has to have, and its time stamp. -/
def versionIn (name : String) (v : Json) : Except Failure (Int × Json) :=
  match v with
  | .obj members =>
    match members.lookup name with
    | none => .error (.misfit .member)
    | some version => do
      let version ← version.whole.mapError Failure.misfit
      return (version, v.getD "updated_at")
  | _ => .error (.misfit .kind)

/-- What a reply means to someone who saves. -/
def readSave (r : Reply) : Except Failure SaveOutcome := do
  if r.status = 200 then
    let (version, updatedAt) ← versionIn "version" (← r.value)
    return .accepted (.int version) updatedAt
  else if r.status = 409 then
    let (serverVersion, updatedAt) ← versionIn "server_version" (← r.value)
    return .conflict { serverVersion := .int serverVersion, updatedAt }
  else if r.status = 403 then return .rejected .locked (.str r.complaint)
  else if r.status = 404 then return .rejected .unknownLink (.str r.complaint)
  else return .failed (.str r.summary)

/-- Sends one answer. -/
def save (c : Client) (t : Transport σ) (link id value version : Json) :
    Attempt σ SaveOutcome := do
  match ← t.send (.post (c.url link.words "save") (saveBody id value version)) with
  | .error text => return .failed (.str (reason text))
  | .ok r => Attempt.lift (readSave r)

/-! ### Submitting -/

/-- What a reply means to someone who submits. -/
def readSubmit (r : Reply) : Except Failure Unit :=
  if r.status = 403 then .error (.alreadySubmitted r.complaint)
  else if r.status = 404 then .error (.notFound "Questionnaire" .null)
  else if r.isOk then .ok ()
  else .error (.remote r.summary (.int r.status))

/-- Submits the questionnaire under a link. -/
def submit (c : Client) (t : Transport σ) (link : Json) : Attempt σ Unit := do
  match ← t.send (.post (c.url link.words "submit") (.obj [])) with
  | .error text => throw (.remote (reason text) .null)
  | .ok r => Attempt.lift (readSubmit r)

/-- The server as a place that keeps answers. -/
def store (c : Client) (t : Transport σ) : AnswerStore σ where
  fetch := c.fetch t
  save := c.save t
  submit := c.submit t

end Client

end Questionnaire.Remote
