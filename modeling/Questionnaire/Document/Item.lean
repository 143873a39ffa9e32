/-
The items of a questionnaire.

A block and a yes/no question hold further items, everything else is a leaf.  What
has no type this library knows is kept whole as `unknown`, so that documents written
for a newer reader still open.  Items stand in a tree; the number of an item, its
handle, is its place in reading order and is worked out where it is needed.
-/
import Questionnaire.Json.Value

namespace Questionnaire

/-- An option of a radio question: the value stored and the text shown. -/
structure Choice where
  value : String
  text : String
  deriving DecidableEq, Repr, Inhabited

/-- An option of a group: its id and its label. -/
structure GroupChoice where
  id : String
  label : String
  deriving DecidableEq, Repr, Inhabited

/-- What every question has. -/
structure Question where
  id : String
  text : String
  required : Bool
  /-- When the question is shown; null for always. -/
  cond : Json
  deriving Inhabited

/-- A hint beside the questions. -/
structure Tip where
  id : String
  text : String
  severity : Option String
  why : Option String
  name : Option String
  warn : Bool
  cond : Json
  deriving Inhabited

/-- The options of a group and the one that is chosen at first. -/
structure GroupChoices where
  choices : List GroupChoice
  initial : Option String
  deriving Inhabited

/-- An item of a questionnaire. -/
inductive Item
  | block (text : String) (cond : Json) (items : List Item)
  | info (text : String) (cond : Json)
  | tip (tip : Tip)
  | spacer
  | line (question : Question) (placeholder : Option String)
  | box (question : Question) (placeholder : Option String)
  | check (question : Question)
  | yesNo (question : Question) (yes no : List Item)
  | radio (question : Question) (choices : List Choice)
  | radioGroup (question : Question) (group : GroupChoices)
  | checkGroup (question : Question) (group : GroupChoices)
  /-- An item of a type that is not known, with the value it was read from. -/
  | unknown (type : String) (source : Json)
  deriving Inhabited

namespace Item

/-- The name of the item's type; an unknown item keeps its own. -/
def type : Item → String
  | .block .. => "block"
  | .info .. => "info"
  | .tip _ => "tip"
  | .spacer => "spacer"
  | .line .. => "line"
  | .box .. => "box"
  | .check _ => "check"
  | .yesNo .. => "yesno"
  | .radio .. => "radio"
  | .radioGroup .. => "radiogroup"
  | .checkGroup .. => "checkgroup"
  | .unknown type _ => type

/-- The question an item asks. -/
def question? : Item → Option Question
  | .line q _ | .box q _ | .check q | .yesNo q _ _ | .radio q _
  | .radioGroup q _ | .checkGroup q _ => some q
  | _ => none

/-- The id of an item as it was given.  An unknown item may carry any value there;
what has no id has the empty text. -/
def id : Item → Json
  | .tip t => .str t.id
  | .unknown _ source => (source.get? "id").getD (.str "")
  | item => .str (item.question?.elim "" Question.id)

/-- When the item is shown; null for always. -/
def cond : Item → Json
  | .block _ cond _ | .info _ cond => cond
  | .tip t => t.cond
  | .spacer | .unknown .. => .null
  | item => item.question?.elim .null Question.cond

/-- Whether the item's type holds an answer that counts toward progress. -/
def countsForProgress : Item → Bool
  | .line .. | .box .. | .check _ | .yesNo .. | .radio .. => true
  | _ => false

/-- The items inside, those under yes before those under no. -/
def children : Item → List Item
  | .block _ _ items => items
  | .yesNo _ yes no => yes ++ no
  | _ => []

mutual

/-- The number of items in the subtree. -/
def size : Item → Nat
  | .block _ _ items => sizes items + 1
  | .yesNo _ yes no => sizes yes + sizes no + 1
  | _ => 1

/-- The number of items in a list of subtrees. -/
def sizes : List Item → Nat
  | [] => 0
  | item :: items => size item + sizes items

end

end Item

end Questionnaire
