/-
What becomes of a save.

A save names the version of the answer that the writer saw last.  It is accepted, or
it meets a newer version, or it is refused, or it does not get through.  These are
values and not failures: a session goes on after each of them.  A version, a code and a message
are passed on as the store tells them, a whole number and texts as a rule.
-/
import Questionnaire.Json.Value

namespace Questionnaire

/-- Why a save is refused. -/
inductive Rejection
  | locked
  /-- No questionnaire has the link. -/
  | unknownLink
  /-- The answer met a newer version before, and nothing was loaded since. -/
  | conflicted
  /-- Any other reason, by its code. -/
  | other (code : Json)

namespace Rejection

def code : Rejection → Json
  | .locked => .str "LOCKED"
  | .unknownLink => .str "NOT_FOUND"
  | .conflicted => .str "CONFLICTED"
  | .other code => code

/-- The reason with a code. -/
def ofCode : Json → Rejection
  | .str "LOCKED" => .locked
  | .str "NOT_FOUND" => .unknownLink
  | .str "CONFLICTED" => .conflicted
  | code => .other code

@[simp] theorem code_ofCode (code : Json) : (ofCode code).code = code := by
  unfold ofCode
  split <;> rfl

/-- Whether the questionnaire is locked, so that nothing else can be saved either. -/
def isLocked : Rejection → Bool
  | .locked => true
  | _ => false

end Rejection

/-- A version that is newer than the writer's, as the store tells it. -/
structure Conflict where
  serverVersion : Json
  updatedAt : Json

/-- What becomes of a save. -/
inductive SaveOutcome
  /-- The answer is stored under a new version. -/
  | accepted (version updatedAt : Json)
  /-- The store holds a newer version. -/
  | conflict (c : Conflict)
  | rejected (reason : Rejection) (message : Json)
  /-- The save did not get through; whether it was stored is not known. -/
  | failed (error : Json)

/-- A conflict as a value to send. -/
def Conflict.toJson (c : Conflict) : Json :=
  .obj [("conflict", .bool true), ("server_version", c.serverVersion),
    ("updated_at", c.updatedAt)]

namespace SaveOutcome

/-- The version under which the save was accepted. -/
def acceptedVersion? : SaveOutcome → Option Json
  | .accepted version _ => some version
  | _ => none

def isAccepted (o : SaveOutcome) : Bool := o.acceptedVersion?.isSome

/-- An outcome as a value to send; a refused or failed save is answered as an error
instead. -/
def toJson? : SaveOutcome → Option Json
  | .accepted version updatedAt =>
    some (.obj [("success", .bool true), ("version", version), ("updated_at", updatedAt)])
  | .conflict c => some c.toJson
  | .rejected .. | .failed _ => none

end SaveOutcome

end Questionnaire
