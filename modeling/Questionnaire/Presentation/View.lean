/-
A presentation as a value to send.

Every mounted item is told with its place, its visibility and what its kind shows:
text, the present answer, and the options with the one that is selected.
-/
import Questionnaire.Presentation.Progress

namespace Questionnaire

namespace Mounted

/-- The answer under an id, the empty text where there is none. -/
def valueOf (answers : Answers) (id : String) : Json := (answers.get? id).getD (.str "")

/-- Whether the answer under an id is `yes`. -/
def isYes (answers : Answers) (id : String) : Bool :=
  match answers.get? id with
  | some (.str "yes") => true
  | _ => false

/-- Whether an optional value is a given text. -/
def isText (v : Json) (s : String) : Bool :=
  match v with
  | .str t => t == s
  | _ => false

def questionView (q : Question) : Entries Json :=
  [("text", .str q.text), ("required", .bool q.required)]

def choiceView (current : Json) (c : Choice) : Json :=
  .obj [("value", .str c.value), ("text", .str (if c.text = "" then c.value else c.text)),
    ("selected", .bool (isText current c.value))]

/-- The options of a radio group: the answer counts if there is one, else the option
that is chosen at first. -/
def radioGroupView (q : Question) (group : GroupChoices) (answers : Answers) : Entries Json :=
  let current := (answers.get? q.id).getD .null
  let selected := if current.isAnswer then current else .ofText? group.initial
  questionView q ++
    [("value", selected.orElse (.str "")),
      ("options", .arr (group.choices.map fun c =>
        .obj [("id", .str c.id), ("label", .str c.label),
          ("selected", .bool (isText selected c.id))]))]

/-- The options of a checkbox group: each has an answer of its own, and the one that is
chosen at first counts only while none of them is answered. -/
def checkGroupView (q : Question) (group : GroupChoices) (answers : Answers) : Entries Json :=
  let anyAnswered := group.choices.any fun c => answers.isAnswered c.id
  questionView q ++
    [("options", .arr (group.choices.map fun c =>
      .obj [("id", .str c.id), ("label", .str c.label),
        ("checked", .bool (if anyAnswered then isYes answers c.id
          else group.initial == some c.id))]))]

/-- What an item shows by its kind. -/
def kindView (item : Item) (branch : Option Branch) (answers : Answers) : Entries Json :=
  match item with
  | .block text _ _ | .info text _ => [("text", .str text)]
  | .tip t =>
    [("text", .str t.text), ("severity", .str (if t.severity.getD "" = "" then "medium" else t.severity.getD "")),
      ("why", .ofText? t.why), ("name", .ofText? t.name), ("warn", .bool t.warn)]
  | .spacer => []
  | .line q placeholder | .box q placeholder =>
    questionView q ++ [("placeholder", .ofText? placeholder), ("value", valueOf answers q.id)]
  | .check q =>
    questionView q ++ [("checked", .bool (isYes answers q.id)), ("value", valueOf answers q.id)]
  | .yesNo q _ _ =>
    questionView q ++ [("value", valueOf answers q.id), ("branch", .ofText? (branch.map Branch.name))]
  | .radio q choices =>
    let current := (answers.get? q.id).getD .null
    questionView q ++
      [("value", if current.isNull then .str "" else current),
        ("options", .arr (choices.map (choiceView current)))]
  | .radioGroup q group => radioGroupView q group answers
  | .checkGroup q group => checkGroupView q group answers
  | .unknown .. => [("supported", .bool false)]

mutual

/-- A mounted item as a value to send. -/
def toJson (answers : Answers) : Mounted → Json
  | ⟨handle, item, depth, visible, branch, children⟩ =>
    let type := if item.type = "" then "unknown" else item.type
    .obj ([("handle", .int handle), ("type", .str type), ("depth", .int depth),
        ("visible", .bool visible)] ++
      (if item.id.truthy then [("id", item.id)] else []) ++
      kindView item branch answers ++
      (if children.isEmpty then [] else [("children", .arr (allToJson answers children))]))

def allToJson (answers : Answers) : List Mounted → List Json
  | [] => []
  | m :: ms => toJson answers m :: allToJson answers ms

end

end Mounted

/-- A presentation as a value to send. -/
def Presentation.toJson (p : Presentation) (answers : Answers) : Json :=
  .obj [("version", .int p.document.version),
    ("items", .arr (Mounted.allToJson answers p.roots)),
    ("progress", (p.progress answers).toJson)]

end Questionnaire
