/-
What may be stored as the content of a template.

Content comes as text or as a value, which is then written as text.  It has to be a
document without findings; the text that was checked is the text that is stored.
-/
import Questionnaire.Failure
import Questionnaire.Json.Writer
import Questionnaire.Presentation.View

namespace Questionnaire

namespace Content

/-- The text of some content. -/
def text : Json → Except Failure String
  | .str s => .ok s
  | .obj ms => .ok (Json.obj ms).render
  | .arr vs => .ok (Json.arr vs).render
  | _ => .error (.malformed .content)

/-- The document of some content. -/
def read (content : Json) : Except Failure Document := do
  Document.load (.str (← text content))

/-- Content that may be stored, as text and as a document. -/
def check (content : Json) : Except Failure (String × Document) := do
  let text ← text content
  let document ← Document.load (.str text)
  let issues ← document.check
  if issues.isEmpty then return (text, document) else throw (.refused (.issues issues))

/-- What checking finds, without storing anything. -/
structure Verdict where
  issues : List Issue
  answerableIds : List String

/-- The findings about some content. -/
def examine (content : Json) : Except Failure Verdict := do
  let document ← read content
  let issues ← document.check
  return { issues, answerableIds := document.answerableIds }

def Verdict.toJson (v : Verdict) : Json :=
  .obj [("valid", .bool v.issues.isEmpty), ("issues", .arr (v.issues.map Issue.toJson)),
    ("answerable_ids", .arr (v.answerableIds.map Json.str))]

/-- What a respondent sees of some content before any answer. -/
def preview (content : Json) : Except Failure Json := do
  let document ← read content
  return (Presentation.render document []).toJson []

end Content

end Questionnaire
