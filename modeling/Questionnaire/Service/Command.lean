/-
The service as a place that keeps answers, and its commands.

A session may fill in a questionnaire in the same program that stores it.  The commands
of an operator are adding the samples and importing the answers of a file.
-/
import Questionnaire.Service.Instance
import Questionnaire.Service.Sample
import Questionnaire.Fill.Import
import Questionnaire.Remote.Client

namespace Questionnaire

namespace Service

/-- The service as a place that keeps answers. -/
def store : AnswerStore Service where
  fetch := respondent
  save := save
  submit link := do let _ ← submit link

/-- The author with a name, who is added if there is none. -/
def adminNamed (name : String) : Attempt Service Admin := do
  match ← read (·.adminNamed? name) with
  | some row => return row
  | none =>
    let s ← get
    let (row, tables) ← Attempt.lift (s.tables.addAdmin name s.now)
    change fun _ => tables
    return row

/-- Adds an author, who needs a name. -/
def createAdmin (name : Json) : Attempt Service Admin := do
  let name ← Attempt.lift (Database.column name)
  let now ← time
  addAndCommit fun t =>
    match name with
    | some name => t.addAdmin name now
    | none => .error .constraint

/-- The name of the author who stands in where nobody has to log in. -/
def standIn : String := "dev-admin"

end Service

/-- What an operator can ask for. -/
inductive Command
  /-- Adds the sample questionnaires. -/
  | seedSamples
  /-- Imports the answers in a text into the questionnaire under a link. -/
  | importAnswers (link text : String) (submit : Bool)
  deriving DecidableEq, Repr

/-- Carries out a command; gives what it prints. -/
def Command.run : Command → Attempt Service String
  | .seedSamples => do
    let admin ← Service.adminNamed Service.standIn
    let _ ← Service.seed admin.id
    Service.commit
    return ""
  | .importAnswers link text submit => do
    let answers ← Attempt.lift ((Json.parse text).mapError fun e =>
      if e.fault = .longNumeral then .misfit .content else .notJson)
    let report ← Questionnaire.importAnswers Service.store (.str link) answers submit
    return Json.write { indent := some "  ", ascii := true } report.toJson ++ "\n"

end Questionnaire
