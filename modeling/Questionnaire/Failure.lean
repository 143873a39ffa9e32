/-
What can go wrong.

A failure is told by its cause; the words and the structured details that go with it
follow from the cause alone.  A conflict between two writers is none of these: it is
an outcome of saving.
-/
import Questionnaire.Document.Reader
import Questionnaire.Validation

namespace Questionnaire

/-- A rule that a well-formed request breaks. -/
inductive Refusal
  /-- An item to insert that is no object. -/
  | itemKind
  | topLevelSlot (slot : String)
  | noSlot (type slot : String)
  /-- An attribute that names children, which are edited as items. -/
  | childrenAttribute (name : String)
  | typeFixed
  | insideItself
  | unknownType (type : Json)
  | questionIdRequired
  | openConflicts (ids : List Json)
  | versionKind (version : Json)
  | nameRequired
  | issues (found : List Issue)
  | answersKind
  /-- No link was free among those tried. -/
  | noFreeLink

namespace Refusal

def message : Refusal → String
  | .itemKind => "Item must be a JSON object"
  | .topLevelSlot slot => s!"Top-level items live in 'items', not '{slot}'"
  | .noSlot type slot => s!"A {type} item has no '{slot}' children"
  | .childrenAttribute name => s!"'{name}' children are edited through add/move/remove"
  | .typeFixed => "An item's type cannot be changed"
  | .insideItself => "An item cannot be moved inside itself"
  | .unknownType type => "Unknown item type '" ++ type.words ++ "'"
  | .questionIdRequired => "question_id is required"
  | .openConflicts _ => "Resolve conflicted answers before submitting"
  | .versionKind _ => "version must be an integer"
  | .nameRequired => "name is required"
  | .issues found => "Template has " ++ toString found.length ++ " validation issue(s)"
  | .answersKind => "Answers must be a JSON object keyed by question id"
  | .noFreeLink => "Could not allocate a unique link"

def details : Refusal → Entries Json
  | .unknownType type => [("type", type)]
  | .openConflicts ids => [("conflicts", .arr ids)]
  | .versionKind version => [("version", version)]
  | .nameRequired => [("name", .str "required")]
  | .issues found => [("issues", .arr (found.map Issue.toJson))]
  | _ => []

end Refusal

/-- What can go wrong. -/
inductive Failure
  | malformed (fault : Document.Fault)
  | refused (rule : Refusal)
  /-- Nothing of the kind has the key; the key is null where none was given. -/
  | notFound (resource : String) (key : Json)
  | alreadySubmitted (message : String)
  /-- A submitted questionnaire is kept. -/
  | submittedKept
  /-- A template that was sent is not edited. -/
  | templateSent
  /-- A template that has instances is not deleted. -/
  | templateInUse
  /-- The server failed in a way that has no meaning of its own; the status is null where there
  is none. -/
  | remote (message : String) (status : Json)
  /-- A fill session was used before it was loaded. -/
  | notLoaded
  | misfit (m : Misfit)
  /-- A row that the database does not admit. -/
  | constraint
  /-- A list or a record where a column holds a single value. -/
  | unstorable
  /-- A list or a record that is not the name of a single row. -/
  | unnamed
  /-- A body that is no JSON. -/
  | notJson

namespace Failure

/-- A document that cannot be read; a numeral too long to read is a misfit. -/
def ofFault : Document.Fault → Failure
  | .text e => if e.fault = .longNumeral then .misfit .content else .malformed (.text e)
  | fault => .malformed fault

def message : Failure → String
  | .malformed fault => fault.message
  | .refused rule => rule.message
  | .notFound resource .null => s!"{resource} not found"
  | .notFound resource key => resource ++ " id=" ++ key.words ++ " not found"
  | .alreadySubmitted message => message
  | .submittedKept => "Cannot delete submitted questionnaires"
  | .templateSent => "Cannot edit template that has been sent"
  | .templateInUse => "Cannot delete template with instances. Archive it instead."
  | .remote message _ => message
  | .notLoaded => "FillSession.load() must be called first"
  | .misfit _ | .constraint | .unstorable | .unnamed | .notJson => ""

def details : Failure → Entries Json
  | .refused rule => rule.details
  | _ => []

end Failure

/-- The document that a value gives. -/
def Document.load (source : Json) : Except Failure Document :=
  (Document.ofJson source).mapError Failure.ofFault

/-- Every finding about a document. -/
def Document.check (d : Document) : Except Failure (List Issue) :=
  d.issues.mapError Failure.misfit

end Questionnaire
