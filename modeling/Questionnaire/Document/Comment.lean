/-
Comments in document text.

Two kinds are known, and both have to start a line, with nothing but blanks in front:
a block from `/*` to the next `*/`, and a line from `//` to the end of its line.
Blank lines in front of a comment go with it.  Blocks are taken out first, then lines;
what stands inside a value, such as the slashes of an address, starts no line and
stays.
-/
import Questionnaire.Text.Blank

namespace Questionnaire.Document.Comment

/-- The number of characters up to and with the first end of a block. -/
def toBlockEnd? : List Char → Option Nat
  | [] => none
  | '*' :: '/' :: _ => some 2
  | _ :: rest => (toBlockEnd? rest).map (· + 1)

/-- The length of the block comment in front of a text, blanks included; zero where
there is none. -/
def blockLength (cs : List Char) : Nat :=
  let blanks := (cs.takeWhile Text.isBlank).length
  match cs.dropWhile Text.isBlank with
  | '/' :: '*' :: body => ((toBlockEnd? body).map (blanks + 2 + ·)).getD 0
  | _ => 0

/-- The length of the line comment in front of a text, blanks included; zero where
there is none. -/
def lineLength (cs : List Char) : Nat :=
  let blanks := (cs.takeWhile Text.isBlank).length
  match cs.dropWhile Text.isBlank with
  | '/' :: '/' :: body => blanks + 2 + (body.takeWhile (· ≠ '\n')).length
  | _ => 0

/-- A text without the comments that `length` finds at the starts of its lines.
`skip` characters are still to be left out. -/
def erase (length : List Char → Nat) : (skip : Nat) → (lineStart : Bool) → List Char → List Char
  | _, _, [] => []
  | skip + 1, _, c :: rest => erase length skip (c == '\n') rest
  | 0, lineStart, c :: rest =>
    match if lineStart then length (c :: rest) else 0 with
    | 0 => c :: erase length 0 (c == '\n') rest
    | n + 1 => erase length n (c == '\n') rest

/-- A text without comments. -/
def strip (cs : List Char) : List Char :=
  erase lineLength 0 true (erase blockLength 0 true cs)

example : strip "// a\n1 /* b */\n  /* c\n */ 2".toList = "\n1 /* b */\n 2".toList := by
  decide +kernel

end Questionnaire.Document.Comment
