/-
Sending, submitting and unlocking.

An instance is one template sent to one respondent under a link of its own.  Submitting
locks it and is refused once it is locked; unlocking always works and forgets when it was
submitted.  A submitted instance is kept; any other can be deleted together with its
answers.
-/
import Questionnaire.Service.Template
import Questionnaire.Service.Answer

namespace Questionnaire

/-! ### The ways of an instance -/

/-- What may be done to an instance. -/
inductive Instance.Action
  | submit | unlock
  deriving DecidableEq, Repr

namespace Instance.Action

def name : Action → String
  | .submit => "submit"
  | .unlock => "unlock"

def ofName? : String → Option Action
  | "submit" => some .submit
  | "unlock" => some .unlock
  | _ => none

/-- Whether the action starts from a status. -/
def startsFrom : Action → Status → Bool
  | .submit, status => status = .opened
  | .unlock, _ => true

/-- The status that the action leads to. -/
def result : Action → Status
  | .submit => .locked
  | .unlock => .opened

end Instance.Action

/-- Whether an action is possible. -/
structure Transition where
  source : Instance.Status
  /-- The status that the action leads to, if it is an action at all. -/
  target : Option Instance.Status
  /-- Why the action is not possible. -/
  obstacle : Option String
  deriving DecidableEq, Repr

namespace Transition

def isValid (t : Transition) : Bool := t.obstacle.isNone

def toJson (t : Transition) : Json :=
  .obj [("valid", .bool t.isValid), ("from", .str t.source.name),
    ("to", .ofText? (t.target.map Instance.Status.name)), ("reason", .ofText? t.obstacle)]

end Transition

/-- Whether the action with a name is possible for an instance. -/
def Instance.transition (i : Instance) (action : String) : Transition :=
  match Action.ofName? action with
  | none => ⟨i.status, none, some ("Unknown action: " ++ action)⟩
  | some a =>
    if a.startsFrom i.status then ⟨i.status, some a.result, none⟩
    else
      ⟨i.status, some a.result,
        some ("Cannot '" ++ action ++ "' from status '" ++ i.status.name ++ "'")⟩

namespace Service

/-- How many links are drawn at most to find a free one. -/
def linkDraws : Nat := 5

/-- Draws links until one is free, at most so many times. -/
def freeLink : (draws : Nat) → Attempt Service String
  | 0 => Attempt.refuse .noFreeLink
  | draws + 1 => do
    let link ← drawLink
    if (← read (·.instanceAt? link)).isNone then return link else freeLink draws

/-- The instance with an id. -/
def findInstance (id : Json) : Attempt Service Instance := do
  let key ← Attempt.lift (Database.single id)
  match (← Attempt.lift (Database.id? key)).bind (← get).tables.instance? with
  | some row => return row
  | none => throw (.notFound "Instance" id)

/-- An instance with the address of its link. -/
def showSent (row : Instance) : Attempt Service (Entries Json) := do
  let s ← get
  let url ← Attempt.lift (s.fillUrl row.link)
  return s.tables.instanceMembers row ++ [("url", .str url)]

/-! ### For authors -/

/-- Sends a template: a new open instance under a fresh link. -/
def createInstance (templateId admin name email : Json) : Attempt Service Instance := do
  let row ← findTemplate templateId
  let link ← freeLink linkDraws
  let now ← time
  let targetName ← trimmed name
  let targetEmail ← trimmed email
  addForAndCommit admin fun createdBy tables => tables.addInstance {
    id := 0, templateId := row.id, link, targetName, targetEmail, createdBy
    createdAt := now, sentAt := some now }

/-- The instances as values to send, newest first. -/
def listInstances : Attempt Service Json := do
  let s ← get
  let rows := s.tables.instances.mergeSort fun a b =>
    b.createdAt.micros < a.createdAt.micros || (a.createdAt = b.createdAt && b.id ≤ a.id)
  .arr <$> rows.mapM fun row => do
    let url ← Attempt.lift (s.fillUrl row.link)
    return .obj (s.tables.instanceMembers row ++
      [("answer_count", .int (s.tables.answersOf row.id).length), ("url", .str url)])

/-- The content of the template of an instance. -/
def contentOf (row : Instance) : Attempt Service Template := do
  match ← read (·.template? row.templateId) with
  | some t => return t
  | none => throw (.misfit .part)

/-- The progress of some answers on some content; a document that cannot be read has
none. -/
def progressOn (content : String) (records : Entries Json) : Except Failure Json :=
  match Document.load (.str content) with
  | .ok document =>
    let answers := Answers.flatten records
    .ok ((Presentation.render document answers).progress answers).toJson
  | .error (.malformed _) => .ok .null
  | .error failure => .error failure

/-- An instance with its content, its answers and how far they go. -/
def showInstance (id : Json) : Attempt Service Json := do
  let row ← findInstance id
  let answers ← loadAnswers (.int row.id)
  let sent ← showSent row
  let source ← contentOf row
  let progress ← Attempt.lift (progressOn source.content answers)
  return .obj (sent ++
    [("template_content", .str source.content), ("answers", .obj answers),
      ("answer_count", .int answers.length), ("progress", progress)])

/-- Opens an instance for answers again. -/
def unlock (id : Json) : Attempt Service Instance := do
  let row ← findInstance id
  change (·.modifyInstance row.id ({ · with isLocked := false, submittedAt := none }))
  commit
  findInstance id

/-- Deletes an instance that was not submitted, and its answers. -/
def deleteInstance (id : Json) : Attempt Service Unit := do
  let row ← findInstance id
  if row.isLocked || row.submittedAt.isSome then throw .submittedKept
  change (·.dropInstance row.id)
  commit

/-! ### For respondents -/

/-- Everything that a respondent needs to fill in the questionnaire under a link. -/
def respondent (link : Json) : Attempt Service Json := do
  match ← instanceUnder link with
  | none => throw (.notFound "Questionnaire" .null)
  | some row =>
    let source ← contentOf row
    let answers ← loadAnswers (.int row.id)
    return .obj [("instance_id", .int row.id), ("questionnaire_name", .str source.name),
      ("questionnaire_description", .str (source.description.getD "")),
      ("template_content", .str source.content), ("is_locked", .bool row.isLocked),
      ("submitted_at", Moment.toJson? row.submittedAt), ("answers", .obj answers),
      ("version", .int row.version)]

/-- Whether an action, by its name, is possible for the instance with an id. -/
def transition (id action : Json) : Attempt Service Transition := do
  let row ← findInstance id
  if !Database.isPlain action then throw (.misfit .kind)
  return row.transition action.words

/-- Submits the questionnaire under a link. -/
def submit (link : Json) : Attempt Service Instance := do
  match ← instanceUnder link with
  | none =>
    rollback
    throw (.notFound "Questionnaire" .null)
  | some row =>
    if !(row.transition Instance.Action.submit.name).isValid then
      rollback
      throw (.alreadySubmitted "Already submitted")
    let now ← time
    change (·.modifyInstance row.id ({ · with isLocked := true, submittedAt := some now }))
    commit
    findInstance (.int row.id)

end Service

end Questionnaire
