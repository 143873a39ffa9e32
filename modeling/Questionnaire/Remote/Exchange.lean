/-
Talking to a server.

A client sends requests over some transport and waits between attempts.  A request is
replied to, or the connection breaks and there is only a text that says why.  What the
transport is, and what state it has, is left open: it may be the network, or a server
in the same program.
-/
import Questionnaire.Json.Reader
import Questionnaire.Failure

namespace Questionnaire.Remote

/-- A request that a client sends. -/
inductive Request
  /-- Asks for what stands at an address. -/
  | get (url : String)
  /-- Sends a value to an address. -/
  | post (url : String) (body : Json)

/-- What a server replies. -/
structure Reply where
  status : Int
  text : String
  deriving DecidableEq, Repr

/-- A way to send requests. -/
structure Transport (σ : Type) where
  /-- Sends a request; a broken connection gives its reason. -/
  send : Request → StateM σ (Except String Reply)
  /-- Waits for a number of seconds. -/
  pause : (seconds : Nat) → StateM σ Unit

namespace Reply

/-- Whether the reply is no complaint.  The complaints are the statuses from 400 to 599. -/
def isOk (r : Reply) : Bool := r.status < 400 || 600 ≤ r.status

/-- The value that the reply holds, or what is wrong with its text. -/
def json (r : Reply) : Except Json.SyntaxError Json := Json.parse r.text

/-- The value that the reply holds.  A numeral too long to read is a misfit. -/
def value (r : Reply) : Except Failure Json :=
  r.json.mapError fun e => if e.fault = .longNumeral then .misfit .content else .notJson

/-- The first characters of the text. -/
def excerpt (r : Reply) : String := Text.take 200 r.text

/-- The words that tell what went wrong: the error that the reply names, else the beginning
of its text. -/
def complaint (r : Reply) : String :=
  match r.json with
  | .ok v => if (v.getD "error").truthy then (v.getD "error").words else r.excerpt
  | .error _ => r.excerpt

/-- The status and the words that go with it. -/
def summary (r : Reply) : String := "HTTP " ++ toString r.status ++ ": " ++ r.complaint

end Reply

/-- The beginning of the reason why a connection broke. -/
def reason (text : String) : String := Text.take 500 text

end Questionnaire.Remote
