/-
A value shown in words.

A text stands for itself; every other value is shown the way lists and records are
written out in messages, where the texts inside are quoted.  Where text is expected,
`text` is what any value counts for.
-/
import Questionnaire.Json.Value
import Questionnaire.Decimal.Layout
import Questionnaire.Text.Quoted
import Questionnaire.Text.Numeral

namespace Questionnaire.Json

mutual

/-- A value as it stands inside a list or a record. -/
def display : Json → String
  | .null => "None"
  | .bool true => "True"
  | .bool false => "False"
  | .int n => Text.decimal n
  | .float x => Decimal.Layout.plain.text x
  | .str s => Text.quoted s
  | .arr items => "[" ++ ", ".intercalate (displayAll items) ++ "]"
  | .obj ms => "\x7b" ++ ", ".intercalate (displayMembers ms) ++ "\x7d"

def displayAll : List Json → List String
  | [] => []
  | v :: vs => display v :: displayAll vs

def displayMembers : List (String × Json) → List String
  | [] => []
  | (name, v) :: ms => (Text.quoted name ++ ": " ++ display v) :: displayMembers ms

end

/-- A value in words: a text as it is, anything else as it is shown. -/
def words : Json → String
  | .str s => s
  | v => display v

/-- The text that a value counts for; null counts for none. -/
def text : Json → String
  | .null => ""
  | v => words v

/-- The text that a value counts for, where null is told apart. -/
def text? : Json → Option String
  | .null => none
  | v => some (words v)

end Questionnaire.Json
