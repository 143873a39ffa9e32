/-
Versioned writing of answers.

A save names the version that the writer saw last and goes through only if the stored
version is not newer.  An answer that is not there is inserted with version one; if
another writer was faster, the insertion is refused and the save is tried once more as a
write of what is there now.

The lock is checked when the save begins.  Another session may commit just before the
insertion, and again before the second try; `Interference` says what.
-/
import Questionnaire.Service.Basic
import Questionnaire.Fill.Outcome
import Questionnaire.Json.Whole

namespace Questionnaire.Service

/-- What other sessions commit while an answer is saved. -/
structure Interference where
  /-- After the answer was found missing and before it is inserted. -/
  beforeInsert : Tables → Tables := id
  /-- After the insertion was refused and before the second try. -/
  beforeRetry : Tables → Tables := id

/-- Nobody else commits anything. -/
def Interference.none : Interference := {}

/-- The version that a writer names: zero where there is none, else a whole number. -/
def readVersion (version : Json) : Except Failure Int :=
  match version with
  | .null | .str "" => .ok 0
  | .bool b => .error (.refused (.versionKind (.bool b)))
  | v =>
    match v.whole with
    | .ok n => .ok n
    | .error .range => .error (.misfit .range)
    | .error _ => .error (.refused (.versionKind v))

/-- The refusal for a link that nothing has. -/
def noQuestionnaire : SaveOutcome :=
  .rejected .unknownLink (.str "Questionnaire not found")

/-- Ends the transaction of a write and reports the new version. -/
def accept (instanceId : Int) (id : String) : Attempt Service SaveOutcome := do
  let row ← read (·.answer? instanceId id)
  commit
  match row with
  | some row => return .accepted row.version.toJson (.str row.updatedAt.iso)
  | none => throw (.misfit .part)

/-- Ends the transaction of a save that met a newer version, and reports that one. -/
def conflict (instanceId : Int) (id : String) : Attempt Service SaveOutcome := do
  let row ← read (·.answer? instanceId id)
  rollback
  match row with
  | some row => return .conflict ⟨row.version.toJson, .str row.updatedAt.iso⟩
  | none => throw (.misfit .part)

/-- Writes an answer that is there, unless it is newer; whether it was written. -/
def write (instanceId : Int) (id : String) (value : Option String) (version : Int)
    (now : Moment) : Attempt Service Bool := do
  match (← get).tables.writeAnswer? instanceId id value version now with
  | some tables =>
    change fun _ => tables
    return true
  | none => return false

/-- The second try of a save whose insertion was refused. -/
def retry (link : Json) (id : String) (value : Option String) (version : Int) (now : Moment) :
    Attempt Service SaveOutcome := do
  match ← instanceUnder link with
  | none =>
    rollback
    return noQuestionnaire
  | some row =>
    if ← write row.id id value version now then accept row.id id else conflict row.id id

/-- Inserts the first answer to a question. -/
def insert (others : Interference) (link : Json) (instanceId : Int) (id : String)
    (value : Option String) (version : Int) (now : Moment) : Attempt Service SaveOutcome := do
  interleave others.beforeInsert
  let row : StoredAnswer := ⟨0, instanceId, id, value, now, .whole 1⟩
  match (← get).tables.addAnswer row with
  | .ok (_, tables) =>
    change fun _ => tables
    commit
    return .accepted (.int 1) (.str now.iso)
  | .error _ =>
    rollback
    interleave others.beforeRetry
    retry link id value version now

/-- Writes an answer to a question of an open instance. -/
def place (others : Interference) (link : Json) (instanceId : Int) (id : String)
    (value : Option String) (version : Int) (now : Moment) : Attempt Service SaveOutcome := do
  if ← write instanceId id value version now then accept instanceId id
  else if (← read (·.answer? instanceId id)).isSome then conflict instanceId id
  else insert others link instanceId id value version now

/-- Saves one answer while others may commit.  No row can be there, or be added, for a
question that the column of questions holds as nothing. -/
def saveAmong (others : Interference) (link id value version : Json) :
    Attempt Service SaveOutcome := do
  if !id.truthy then Attempt.refuse .questionIdRequired
  let version ← Attempt.lift (readVersion version)
  match ← instanceUnder link with
  | none =>
    rollback
    return noQuestionnaire
  | some row =>
    if row.isLocked then
      rollback
      return .rejected .locked (.str "Questionnaire is locked")
    let now ← time
    let id ← Attempt.lift (Database.column id)
    let version ← Attempt.lift (Database.checked version)
    match id with
    | some id => place others link row.id id value.text? version now
    | none =>
      rollback
      throw (.misfit .part)

/-- Saves one answer. -/
def save (link id value version : Json) : Attempt Service SaveOutcome :=
  saveAmong .none link id value version

/-- The answers of an instance under their questions. -/
def loadAnswers (instanceId : Json) : Attempt Service (Entries Json) := do
  match ← Attempt.lift (Database.id? instanceId) with
  | some id => read (·.records id)
  | none => return []

/-- The answers under a link. -/
def loadAnswersAt (link : Json) : Attempt Service (Entries Json) := do
  match ← instanceUnder link with
  | some row => loadAnswers (.int row.id)
  | none => throw (.notFound "Instance" link)

/-- How many answers an instance has. -/
def countAnswers (instanceId : Json) : Attempt Service Nat := do
  match ← Attempt.lift (Database.id? instanceId) with
  | some id => read fun t => (t.answersOf id).length
  | none => return 0

end Questionnaire.Service
