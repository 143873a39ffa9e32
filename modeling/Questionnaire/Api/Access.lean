/-
Who may manage questionnaires.

Respondents need no more than their link.  Whoever manages questionnaires shows a key, in
a header or else in the query, and each key belongs to a name.  A name gets an account when
its key is used for the first time.  Where the gate is open, everybody acts as one
stand-in.

Keys are listed as `key:name`, parted by commas.  The last colon parts key and name, so that
a key may hold colons; an entry without a colon, or with a blank half, is left out.
-/
import Questionnaire.Api.Message
import Questionnaire.Service.Command
import Questionnaire.Text.Flag

namespace Questionnaire.Api

/-! ### Keys -/

/-- The key and the name that an entry gives, if it gives both. -/
def readKey? (entry : String) : Option (String × String) :=
  match Text.splitLast ':' entry.toList with
  | (none, _) => none
  | (some key, name) =>
    let key := Text.trim (String.ofList key)
    let name := Text.trim (String.ofList name)
    if key = "" || name = "" then none else some (key, name)

/-- The names under their keys; of two entries for one key the last one counts. -/
def readKeys (s : String) : Entries String :=
  Entries.setAll [] ((Text.parts ',' s).filterMap fun entry => readKey? (Text.trim entry))

/-! ### The gate -/

/-- What the gate depends on. -/
structure Gate where
  /-- What the surroundings say about the gate; empty if they say nothing. -/
  override : String := ""
  /-- What the configuration says about it, if there is one. -/
  configured : Option String := some "true"
  /-- The list of keys. -/
  keys : String := ""
  deriving DecidableEq, Repr

namespace Gate

/-- Whether a key is needed.  The surroundings go before the configuration, and without
either the gate is closed. -/
def isClosed (g : Gate) : Bool :=
  if g.override ≠ "" then !Text.switchesOff g.override
  else
    match g.configured with
    | some flag => !Text.switchesOff flag
    | none => true

end Gate

/-- The key that a request shows. -/
def presentedKey? (r : Request) : Option String :=
  let header := Text.trim ((r.header? "X-API-Key").getD "")
  let argument := Text.trim ((r.argument? "api_key").getD "")
  if header ≠ "" then some header else if argument ≠ "" then some argument else none

/-- The name that a request acts under, or why it may not act. -/
def identify (g : Gate) (r : Request) : Except Response String :=
  if !g.isClosed then .ok Service.standIn
  else
    match presentedKey? r with
    | none => .error (Response.error "Authentication required. Provide X-API-Key header." 401)
    | some key =>
      let keys := readKeys g.keys
      if keys.isEmpty then .error (Response.error "Server authentication not configured" 500)
      else
        match keys.get? key with
        | some name => .ok name
        | none => .error (Response.error "Invalid API key" 401)

/-- Logs a name in: notes the time in its account, which is added if there is none. -/
def logIn (name : String) : Attempt Service Admin := do
  let admin ← Service.adminNamed name
  let now ← Service.time
  Service.change (·.modifyAdmin admin.id ({ · with lastLogin := some now }))
  Service.commit
  return { admin with lastLogin := some now }

/-- The account that a request acts under, or why it may not act. -/
def authenticate (g : Gate) (r : Request) : Attempt Service (Except Response Admin) := do
  match identify g r with
  | .ok name => return .ok (← logIn name)
  | .error response => return .error response

end Questionnaire.Api
