/-
A respondent's session.

A session holds the answers of one respondent for one questionnaire, the version of
each that the store confirmed last, and the presentation for them.  An answer is applied
at once and then saved; whatever becomes of the save, the answer stays as it was
given.  A field whose save met a newer version is blocked, and so is submitting, until
the questionnaire is loaded again.

Loading replaces one part of the session after the other.  Where the fetched value
turns out not to be usable, the parts before that point are replaced and the others
are kept.
-/
import Questionnaire.Fill.Fields
import Questionnaire.Fill.Store
import Questionnaire.Json.Key
import Questionnaire.Json.Whole
import Questionnaire.Presentation.Refresh
import Questionnaire.Presentation.View

namespace Questionnaire

/-- A respondent's session. -/
structure FillSession where
  instanceId : Json := .null
  name : Json := .str ""
  description : Json := .str ""
  isLocked : Bool := false
  submittedAt : Json := .null
  document : Option Document := none
  /-- What the respondent sees; there is none before the first load. -/
  presentation : Option Presentation := none
  answers : Fields Json := []
  /-- The version of each answer that was loaded or accepted last. -/
  versions : Fields Json := []
  /-- The fields that are blocked until the next load. -/
  conflicts : Fields Conflict := []
  /-- Why the last save of a field was refused or failed. -/
  errors : Fields Json := []

namespace FillSession

/-! ### Looking -/

/-- The blocked fields in ascending order, which texts have among themselves and numbers too. -/
def conflictedIds (s : FillSession) : Except Misfit (List Json) := Json.sorted s.conflicts.ids

def canSubmit (s : FillSession) : Bool := !s.isLocked && s.conflicts.isEmpty

/-- The version that the next save of a field names. -/
def version (s : FillSession) (id : Json) : Json := (s.versions.get? id).getD (.int 0)

/-- The presentation, which only a loaded session has. -/
def presented (s : FillSession) : Except Failure Presentation :=
  match s.presentation with
  | some p => .ok p
  | none => .error (.misfit .part)

def progress (s : FillSession) : Except Failure Progress := do
  return (← s.presented).progress s.answers.named

/-- The session as a value to send. -/
def toJson (s : FillSession) : Except Failure Json := do
  let conflicts ← s.conflictedIds.mapError Failure.misfit
  let p ← s.presented
  let answers := s.answers.named
  return .obj [("instance_id", s.instanceId), ("name", s.name), ("is_locked", .bool s.isLocked),
    ("conflicts", .arr conflicts), ("errors", .obj s.errors.inWords),
    ("progress", (p.progress answers).toJson), ("presentation", p.toJson answers)]

/-! ### Loading -/

/-- The records of answers in a fetched value. -/
def recordsOf (payload : Json) : Except Failure (Entries Json) :=
  match (payload.getD "answers").orElse (.obj []) with
  | .obj records => .ok records
  | _ => .error (.misfit .part)

/-- The version in a record, zero where there is none. -/
def versionOf (record : Json) : Except Misfit Int :=
  ((record.getD "version").orElse (.int 0)).whole

/-- The versions in records; a plain answer has none. -/
def versionsOf : Entries Json → Except Misfit (Entries Json)
  | [] => .ok []
  | (id, .obj ms) :: rest => do
    let version ← versionOf (.obj ms)
    let others ← versionsOf rest
    return (id, .int version) :: others
  | _ :: rest => versionsOf rest

/-- Takes over what describes the questionnaire. -/
def describe (payload : Json) (s : FillSession) : FillSession :=
  { s with
    instanceId := payload.getD "instance_id"
    name := (payload.getD "questionnaire_name").orElse (.str "")
    description := (payload.getD "questionnaire_description").orElse (.str "")
    isLocked := (payload.getD "is_locked").truthy
    submittedAt := payload.getD "submitted_at" }

/-- Takes over a fetched value, part by part. -/
def seed (payload : Json) : Attempt FillSession Unit := do
  if !payload.isObject then throw (.misfit .part)
  modify (describe payload)
  let document ← Attempt.lift
    (Document.load ((payload.getD "template_content").orElse (.str "")))
  modify fun s => { s with document := some document }
  let records ← Attempt.lift (recordsOf payload)
  let answers := Answers.flatten records
  modify fun s => { s with answers := .ofEntries answers }
  let versions ← Attempt.fit (versionsOf records)
  modify fun s =>
    { s with
      versions := .ofEntries versions
      conflicts := []
      errors := []
      presentation := some (Presentation.render document answers) }

variable {σ : Type}

/-- Fetches the questionnaire and takes it over.  Edits that were not saved are lost, and
nothing is blocked any more. -/
def load (store : AnswerStore σ) (link : Json) : Attempt (FillSession × σ) Unit := do
  let payload ← Attempt.onSecond (store.fetch link)
  Attempt.onFirst (seed payload)

/-! ### Answering -/

/-- The session with an answer applied. -/
def applyAnswer (s : FillSession) (p : Presentation) (id value : Json) : FillSession :=
  let answers := s.answers.set id value
  { s with answers, presentation := some (p.refresh answers.named).1 }

/-- The session after a save. -/
def record (s : FillSession) (id : Json) : SaveOutcome → FillSession
  | .accepted version _ =>
    { s with versions := s.versions.set id version, errors := s.errors.erase id }
  | .conflict c => { s with conflicts := s.conflicts.set id c }
  | .rejected reason message =>
    { s with
      isLocked := s.isLocked || reason.isLocked
      errors := s.errors.set id (message.orElse reason.code) }
  | .failed error => { s with errors := s.errors.set id error }

/-- Answers a question.  A locked questionnaire and a blocked field refuse it without
asking the store. -/
def setAnswer (store : AnswerStore σ) (link id value : Json) :
    Attempt (FillSession × σ) SaveOutcome := do
  let (s, _) ← get
  match s.presentation with
  | none => throw .notLoaded
  | some p =>
    if !id.truthy then Attempt.refuse .questionIdRequired
    if !Fields.isName id then throw (.misfit .kind)
    if s.isLocked then return .rejected .locked (.str "Questionnaire is locked")
    else if s.conflicts.has id then
      return .rejected .conflicted (.str "Reload to resolve the conflict first")
    else
      Attempt.onFirst (set (s.applyAnswer p id value))
      let outcome ← Attempt.onSecond (store.save link id value (s.version id))
      Attempt.onFirst (modify fun s => s.record id outcome)
      return outcome

/-- Submits the questionnaire, unless a field is blocked. -/
def submit (store : AnswerStore σ) (link : Json) : Attempt (FillSession × σ) Unit := do
  let (s, _) ← get
  if s.conflicts.isEmpty then
    Attempt.onSecond (store.submit link)
    Attempt.onFirst (modify fun s => { s with isLocked := true })
  else
    let ids ← Attempt.fit s.conflictedIds
    Attempt.refuse (.openConflicts ids)

end FillSession

end Questionnaire
