/-
Writing documents.

An item is written as the object that reads back as it.  A field that says nothing is
left out: one that is null, false or the empty text.  An unknown item is written as
the value it was read from.
-/
import Questionnaire.Document.Basic
import Questionnaire.Json.Writer

namespace Questionnaire

/-- Whether a value says something: it is neither null nor false nor the empty text. -/
def Json.speaks : Json → Bool
  | .null => false
  | .bool b => b
  | .str s => s ≠ ""
  | _ => true

/-- The option of a radio question as an object. -/
def Choice.toJson (c : Choice) : Json := .obj [("value", .str c.value), ("text", .str c.text)]

/-- The option of a group as an object. -/
def GroupChoice.toJson (c : GroupChoice) : Json := .obj [(c.id, .str c.label)]

namespace Item

/-- A field under its name, left out if it says nothing. -/
def field (name : String) (v : Json) : Entries Json := if v.speaks then [(name, v)] else []

/-- The fields that open a question, and those that close it. -/
def questionHead (q : Question) : Entries Json :=
  field "id" (.str q.id) ++ field "text" (.str q.text)

def questionFields (q : Question) (placeholder : Option String) : Entries Json :=
  questionHead q ++ field "required" (.bool q.required) ++
    field "placeholder" (.ofText? placeholder) ++ field "cond" q.cond

def groupFields (q : Question) (group : GroupChoices) : Entries Json :=
  questionHead q ++ [("choices", .arr (group.choices.map GroupChoice.toJson))] ++
    field "defaultChoice" (.ofText? group.initial) ++ field "required" (.bool q.required) ++
    field "cond" q.cond

def tipFields (t : Tip) : Entries Json :=
  field "id" (.str t.id) ++ field "text" (.str t.text) ++
    field "severity" (.ofText? t.severity) ++ field "why" (.ofText? t.why) ++
    field "name" (.ofText? t.name) ++ field "warn" (.bool t.warn) ++ field "cond" t.cond

/-- The members of an object for an item of a known type. -/
def typed (type : String) (fields : Entries Json) : Json := .obj (("type", .str type) :: fields)

mutual

/-- The value that describes an item. -/
def toJson : Item → Json
  | .block text cond items =>
    typed "block" (field "text" (.str text) ++ field "cond" cond ++
      [("items", .arr (allToJson items))])
  | .info text cond => typed "info" (field "text" (.str text) ++ field "cond" cond)
  | .tip t => typed "tip" (tipFields t)
  | .spacer => typed "spacer" []
  | .line q placeholder => typed "line" (questionFields q placeholder)
  | .box q placeholder => typed "box" (questionFields q placeholder)
  | .check q => typed "check" (questionFields q none)
  | .yesNo q yes no =>
    typed "yesno" (questionFields q none ++
      (if yes.isEmpty then [] else [("yes", .arr (allToJson yes))]) ++
      (if no.isEmpty then [] else [("no", .arr (allToJson no))]))
  | .radio q choices =>
    typed "radio" (questionHead q ++ [("choices", .arr (choices.map Choice.toJson))] ++
      field "required" (.bool q.required) ++ field "cond" q.cond)
  | .radioGroup q group => typed "radiogroup" (groupFields q group)
  | .checkGroup q group => typed "checkgroup" (groupFields q group)
  | .unknown _ source => source

/-- The values that describe a list of items. -/
def allToJson : List Item → List Json
  | [] => []
  | item :: items => toJson item :: allToJson items

end

end Item

namespace Document

/-- The object that describes a document. -/
def toJson (d : Document) : Json :=
  .obj [("version", .int d.version), ("items", .arr (Item.allToJson d.items))]

/-- The text that writes a document. -/
def write (d : Document) (indent : Option String) : String :=
  Json.write { indent } d.toJson

end Document

end Questionnaire
