/-
Writing JSON text.

On one line, items are parted by a comma and a blank, or by a comma alone; with an
indent every item has a line of its own.  Empty lists and objects stay closed up in
both.  Quotes, backslashes and the controls below U+0020 are escaped, and everything
beyond ASCII too where the style asks for it.
-/
import Questionnaire.Json.Value
import Questionnaire.Decimal.Layout
import Questionnaire.Misfit
import Questionnaire.Text.Quoted
import Questionnaire.Text.Numeral

namespace Questionnaire.Json

/-- How a text is written. -/
structure Style where
  /-- One step of indentation; on one line without it. -/
  indent : Option String := none
  /-- Whether everything beyond ASCII is escaped. -/
  ascii : Bool := false
  /-- Whether blanks behind commas and colons are left out. -/
  compact : Bool := false
  deriving DecidableEq, Repr

/-- The escape of a code unit by its number. -/
def unitEscape (n : Nat) : List Char := '\\' :: 'u' :: Text.hex 4 n

/-- One character inside a string. -/
def escapeChar (ascii : Bool) (c : Char) : List Char :=
  if c = '"' then ['\\', '"']
  else if c = '\\' then ['\\', '\\']
  else if c = '\n' then ['\\', 'n']
  else if c = '\r' then ['\\', 'r']
  else if c = '\t' then ['\\', 't']
  else if c = '\x08' then ['\\', 'b']
  else if c = '\x0c' then ['\\', 'f']
  else if c.toNat < 0x20 then unitEscape c.toNat
  else if ascii && 0x7F ≤ c.toNat then
    if c.toNat ≤ 0xFFFF then unitEscape c.toNat
    else
      let n := c.toNat - 0x10000
      unitEscape (0xD800 + n / 0x400) ++ unitEscape (0xDC00 + n % 0x400)
  else [c]

/-- A string in its quotes. -/
def writeString (ascii : Bool) (s : String) : List Char :=
  '"' :: s.toList.flatMap (escapeChar ascii) ++ ['"']

/-- The start of a line at a depth; nothing on one line. -/
def Style.newline (style : Style) (depth : Nat) : List Char :=
  match style.indent with
  | none => []
  | some step => '\n' :: (List.replicate depth step.toList).flatten

/-- What stands between two items at a depth. -/
def Style.separator (style : Style) (depth : Nat) : List Char :=
  match style.indent with
  | none => if style.compact then [','] else [',', ' ']
  | some _ => ',' :: style.newline depth

/-- What stands between a name and its value. -/
def Style.colon (style : Style) : List Char := if style.compact then [':'] else [':', ' ']

mutual

/-- A value at a depth. -/
def writeAt (style : Style) (depth : Nat) : Json → List Char
  | .null => "null".toList
  | .bool true => "true".toList
  | .bool false => "false".toList
  | .int n => (Text.decimal n).toList
  | .float x => (Decimal.Layout.document.text x).toList
  | .str s => writeString style.ascii s
  | .arr [] => ['[', ']']
  | .arr (v :: vs) =>
    '[' :: style.newline (depth + 1) ++ writeAt style (depth + 1) v ++
      writeItems style (depth + 1) vs ++ style.newline depth ++ [']']
  | .obj [] => ['{', '}']
  | .obj ((name, v) :: ms) =>
    '{' :: style.newline (depth + 1) ++ writeString style.ascii name ++ style.colon ++
      writeAt style (depth + 1) v ++ writeMembers style (depth + 1) ms ++
      style.newline depth ++ ['}']

/-- The items after the first. -/
def writeItems (style : Style) (depth : Nat) : List Json → List Char
  | [] => []
  | v :: vs => style.separator depth ++ writeAt style depth v ++ writeItems style depth vs

/-- The members after the first. -/
def writeMembers (style : Style) (depth : Nat) : List (String × Json) → List Char
  | [] => []
  | (name, v) :: ms =>
    style.separator depth ++ writeString style.ascii name ++ style.colon ++
      writeAt style depth v ++ writeMembers style depth ms

end

/-- A value as text. -/
def write (style : Style) (v : Json) : String := String.ofList (writeAt style 0 v)

/-- A value as text on one line. -/
def render (v : Json) : String := write {} v

/-- The indentation that a value asks for: none, a number of blanks that fits sixty-four
bits, or a text. -/
def indent? : Json → Except Misfit (Option String)
  | .null => .ok none
  | .bool b => .ok (some (if b then " " else ""))
  | .int n =>
    if -2 ^ 63 ≤ n && n < 2 ^ 63 then .ok (some (String.ofList (List.replicate n.toNat ' ')))
    else .error .range
  | .str s => .ok (some s)
  | .float _ | .arr _ | .obj _ => .error .kind

example : render (.obj [("a", .arr [.int 1, .null]), ("b", .obj [])]) =
    "\x7b\"a\": [1, null], \"b\": \x7b\x7d\x7d" := by decide +kernel

end Questionnaire.Json
