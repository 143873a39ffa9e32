/-
What is stored.

Authors own templates, a template sent to one respondent is an instance, and an instance
has one answer a question.  An instance is reached by its link, which is all that a
respondent knows.  It is open until it is submitted, which locks it, and an author may
unlock it again.  The version of an answer begins at one and goes up by one with
every write; beyond the range of a column of numbers it is held as a double.
-/
import Questionnaire.Database.Number
import Questionnaire.Time.Moment

namespace Questionnaire

/-- Someone who writes and sends questionnaires. -/
structure Admin where
  id : Int
  username : String
  createdAt : Moment
  lastLogin : Option Moment := none
  deriving DecidableEq, Repr

/-- A questionnaire as its author wrote it. -/
structure Template where
  id : Int
  name : String
  description : Option String
  /-- The document, exactly as it was saved. -/
  content : String
  createdBy : Int
  createdAt : Moment
  updatedAt : Moment
  isArchived : Bool := false
  deriving DecidableEq, Repr

/-- A template sent to one respondent. -/
structure Instance where
  id : Int
  templateId : Int
  link : String
  targetName : String
  targetEmail : String
  createdBy : Int
  createdAt : Moment
  sentAt : Option Moment
  submittedAt : Option Moment := none
  isLocked : Bool := false
  version : Int := 1
  deriving DecidableEq, Repr

/-- The latest answer to one question. -/
structure StoredAnswer where
  id : Int
  instanceId : Int
  questionId : String
  value : Option String
  updatedAt : Moment
  version : Number
  deriving DecidableEq

/-- A moment as a value to send, null where there is none. -/
def Moment.toJson? : Option Moment → Json
  | some m => .str m.iso
  | none => .null

namespace Admin

def toJson (a : Admin) : Json :=
  .obj [("id", .int a.id), ("username", .str a.username), ("created_at", .str a.createdAt.iso),
    ("last_login", Moment.toJson? a.lastLogin)]

/-- The author in a word, for logs. -/
def label (a : Admin) : String := s!"<Admin {a.id}: {a.username}>"

end Admin

namespace Template

/-- The template in a word, for logs. -/
def label (t : Template) : String := s!"<QuestionnaireTemplate {t.id}: {t.name}>"

end Template

/-- Whether an instance takes answers. -/
inductive Instance.Status
  | opened | locked
  deriving DecidableEq, Repr

def Instance.Status.name : Instance.Status → String
  | .opened => "open"
  | .locked => "locked"

namespace Instance

def status (i : Instance) : Status := if i.isLocked then .locked else .opened

/-- The instance in a word, for logs. -/
def label (i : Instance) : String :=
  let status := i.status.name
  s!"<QuestionnaireInstance {i.id}: {status}>"

end Instance

namespace StoredAnswer

/-- The answer without its question. -/
def record (a : StoredAnswer) : Entries Json :=
  [("value", .ofText? a.value), ("version", a.version.toJson), ("updated_at", .str a.updatedAt.iso)]

def toJson (a : StoredAnswer) : Json := .obj (("question_id", .str a.questionId) :: a.record)

/-- The answer in a word, for logs. -/
def label (a : StoredAnswer) : String :=
  let version := a.version.toJson.words
  s!"<Answer {a.instanceId}/{a.questionId} v{version}>"

end StoredAnswer

end Questionnaire
