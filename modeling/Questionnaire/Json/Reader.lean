/-
Reading JSON text.

The grammar is JSON with three further literals, `NaN`, `Infinity` and `-Infinity`.
Blanks between tokens are space, tab, line feed and carriage return only, and a
string holds no raw control character.  Every function returns what it read and the
rest of the text, or a fault and the text that begins where the fault stands; from
that rest the position, line and column of the fault follow.

Reading is bounded by the length of the text: each nested call has taken at least one
character, so the fuel that `parse` hands out never runs dry.
-/
import Questionnaire.Json.Value
import Questionnaire.Text.Numeral

namespace Questionnaire.Json

/-- What is wrong with a text. -/
inductive Fault
  | value | name | colon | comma | extra | unterminated | control | escape | unicode | mark
  /-- A whole number with more digits than a numeral may have. -/
  | longNumeral
  deriving DecidableEq, Repr

/-- The words for a fault. -/
def Fault.message : Fault → String
  | .value => "Expecting value"
  | .name => "Expecting property name enclosed in double quotes"
  | .colon => "Expecting ':' delimiter"
  | .comma => "Expecting ',' delimiter"
  | .extra => "Extra data"
  | .unterminated => "Unterminated string starting at"
  | .control => "Invalid control character at"
  | .escape => "Invalid \\escape"
  | .unicode => "Invalid \\uXXXX escape"
  | .mark => "Unexpected UTF-8 BOM (decode using utf-8-sig)"
  | .longNumeral => "Exceeds the limit for integer string conversion"

/-- A fault and the text that begins where it stands. -/
structure Stop where
  fault : Fault
  rest : List Char

/-- A fault with its place: characters before it, its line and its column. -/
structure SyntaxError where
  fault : Fault
  position : Nat
  line : Nat
  column : Nat
  deriving DecidableEq, Repr

/-- The place of a fault in a text. -/
def Stop.locate (stop : Stop) (text : List Char) : SyntaxError :=
  let position := text.length - stop.rest.length
  let before := text.take position
  { fault := stop.fault
    position
    line := before.count '\n' + 1
    column := (before.reverse.takeWhile (· ≠ '\n')).length + 1 }

/-- The words for a fault with its place. -/
def SyntaxError.message (e : SyntaxError) : String :=
  e.fault.message ++ ": line " ++ toString e.line ++ " column " ++ toString e.column ++
    " (char " ++ toString e.position ++ ")"

/-! ### Tokens -/

/-- A blank between tokens. -/
def isSpace (c : Char) : Bool := c = ' ' || c = '\t' || c = '\n' || c = '\r'

/-- The text after the blanks at its front. -/
def skipSpace (cs : List Char) : List Char := cs.dropWhile isSpace

/-- The value of a hexadecimal digit. -/
def hexDigit? (c : Char) : Option Nat :=
  if '0' ≤ c && c ≤ '9' then some (c.toNat - '0'.toNat)
  else if 'a' ≤ c && c ≤ 'f' then some (c.toNat - 'a'.toNat + 10)
  else if 'A' ≤ c && c ≤ 'F' then some (c.toNat - 'A'.toNat + 10)
  else none

/-- The number that four hexadecimal digits write. -/
def hex4? (a b c d : Char) : Option Nat := do
  return (((← hexDigit? a) * 16 + (← hexDigit? b)) * 16 + (← hexDigit? c)) * 16 + (← hexDigit? d)

def isHighSurrogate (n : Nat) : Bool := 0xD800 ≤ n && n < 0xDC00
def isLowSurrogate (n : Nat) : Bool := 0xDC00 ≤ n && n < 0xE000

/-- The character of a code unit; half of a pair alone becomes the replacement
character. -/
def unitChar (n : Nat) : Char :=
  if isHighSurrogate n || isLowSurrogate n then '\uFFFD' else Char.ofNat n

/-- The character that a high and a low code unit write together. -/
def pairChar (high low : Nat) : Char :=
  Char.ofNat (0x10000 + (high - 0xD800) * 0x400 + (low - 0xDC00))

/-- The character that a short escape stands for. -/
def shortEscape? : Char → Option Char
  | '"' => some '"'
  | '\\' => some '\\'
  | '/' => some '/'
  | 'b' => some '\x08'
  | 'f' => some '\x0c'
  | 'n' => some '\n'
  | 'r' => some '\r'
  | 't' => some '\t'
  | _ => none

/-- Puts a character in front of a string that was read. -/
def push (c : Char) (read : Except Stop (List Char × List Char)) :
    Except Stop (List Char × List Char) :=
  read.map fun (cs, rest) => (c :: cs, rest)

/-- The content of a string, from behind its opening quote; `opening` is the text
from that quote on. -/
def readString (opening : List Char) : List Char → Except Stop (List Char × List Char)
  | [] => .error ⟨.unterminated, opening⟩
  | '"' :: rest => .ok ([], rest)
  | '\\' :: [] => .error ⟨.unterminated, opening⟩
  | '\\' :: 'u' :: a :: b :: c :: d :: e :: rest =>
    let here := 'u' :: a :: b :: c :: d :: e :: rest
    match hex4? a b c d with
    | none => .error ⟨.unicode, here⟩
    | some n =>
      match e, rest with
      | '\\', 'u' :: a' :: b' :: c' :: d' :: e' :: rest' =>
        if isHighSurrogate n then
          match hex4? a' b' c' d' with
          | none => .error ⟨.unicode, 'u' :: a' :: b' :: c' :: d' :: e' :: rest'⟩
          | some m =>
            if isLowSurrogate m then push (pairChar n m) (readString opening (e' :: rest'))
            else push (unitChar n) (readString opening
              ('\\' :: 'u' :: a' :: b' :: c' :: d' :: e' :: rest'))
        else push (unitChar n) (readString opening
          ('\\' :: 'u' :: a' :: b' :: c' :: d' :: e' :: rest'))
      | e, rest => push (unitChar n) (readString opening (e :: rest))
  | '\\' :: 'u' :: rest => .error ⟨.unicode, 'u' :: rest⟩
  | '\\' :: c :: rest =>
    match shortEscape? c with
    | some x => push x (readString opening rest)
    | none => .error ⟨.escape, '\\' :: c :: rest⟩
  | c :: rest =>
    if c.toNat < 0x20 then .error ⟨.control, c :: rest⟩ else push c (readString opening rest)
  termination_by cs => cs.length

/-- An ASCII digit. -/
def isDigit (c : Char) : Bool := '0' ≤ c && c ≤ '9'

/-- The number that ASCII digits write. -/
def digitsValue (ds : List Char) : Nat := Text.ofDigits (ds.map fun c => c.toNat - '0'.toNat)

/-- The digits of a whole part: a lone zero, or digits without a zero in front. -/
def wholePart? : List Char → Option (List Char × List Char)
  | '0' :: rest => some (['0'], rest)
  | cs =>
    let ds := cs.takeWhile isDigit
    if ds.isEmpty then none else some (ds, cs.dropWhile isDigit)

/-- The digits behind a point; none where the point has no digit behind it. -/
def fraction (cs : List Char) : List Char × List Char :=
  match cs with
  | '.' :: rest =>
    let ds := rest.takeWhile isDigit
    if ds.isEmpty then ([], cs) else (ds, rest.dropWhile isDigit)
  | _ => ([], cs)

/-- An exponent; none where the letter has no digits behind it. -/
def scale (cs : List Char) : Option Int × List Char :=
  match cs with
  | c :: rest =>
    if c = 'e' || c = 'E' then
      let (negative, body) := match rest with
        | '-' :: body => (true, body)
        | '+' :: body => (false, body)
        | _ => (false, rest)
      let ds := body.takeWhile isDigit
      if ds.isEmpty then (none, cs)
      else
        let n : Int := digitsValue ds
        (some (if negative then -n else n), body.dropWhile isDigit)
    else (none, cs)
  | [] => (none, cs)

/-- A number. -/
def readNumber (cs : List Char) : Except Stop (Json × List Char) :=
  let (negative, body) := match cs with
    | '-' :: body => (true, body)
    | _ => (false, cs)
  match wholePart? body with
  | none => .error ⟨.value, cs⟩
  | some (whole, rest) =>
    let (behind, rest) := fraction rest
    let (exponent, rest) := scale rest
    if behind.isEmpty && exponent.isNone then
      if whole.length ≤ Text.maxDigits then
        let n : Int := digitsValue whole
        .ok (.int (if negative then -n else n), rest)
      else .error ⟨.longNumeral, cs⟩
    else
      let coefficient := digitsValue (whole ++ behind)
      .ok (.float (.ofDecimal negative coefficient (exponent.getD 0 - behind.length)), rest)

/-- A literal or a number. -/
def readScalar : List Char → Except Stop (Json × List Char)
  | 'n' :: 'u' :: 'l' :: 'l' :: rest => .ok (.null, rest)
  | 't' :: 'r' :: 'u' :: 'e' :: rest => .ok (.bool true, rest)
  | 'f' :: 'a' :: 'l' :: 's' :: 'e' :: rest => .ok (.bool false, rest)
  | 'N' :: 'a' :: 'N' :: rest => .ok (.float .nan, rest)
  | 'I' :: 'n' :: 'f' :: 'i' :: 'n' :: 'i' :: 't' :: 'y' :: rest =>
    .ok (.float (.infinite false), rest)
  | '-' :: 'I' :: 'n' :: 'f' :: 'i' :: 'n' :: 'i' :: 't' :: 'y' :: rest =>
    .ok (.float (.infinite true), rest)
  | cs => readNumber cs

/-! ### Values -/

mutual

/-- A value. -/
def readValue : Nat → List Char → Except Stop (Json × List Char)
  | 0, cs => .error ⟨.value, cs⟩
  | fuel + 1, cs =>
    match cs with
    | '"' :: rest => (readString cs rest).map fun (s, rest) => (.str (String.ofList s), rest)
    | '[' :: rest =>
      match skipSpace rest with
      | ']' :: rest => .ok (.arr [], rest)
      | rest => (readItems fuel rest).map fun (items, rest) => (.arr items, rest)
    | '{' :: rest =>
      match skipSpace rest with
      | '}' :: rest => .ok (.obj [], rest)
      | rest => (readMembers fuel [] rest).map fun (ms, rest) => (.obj ms, rest)
    | cs => readScalar cs

/-- The items of a list, up to and with the closing bracket. -/
def readItems : Nat → List Char → Except Stop (List Json × List Char)
  | 0, cs => .error ⟨.value, cs⟩
  | fuel + 1, cs => do
    let (v, rest) ← readValue fuel cs
    match skipSpace rest with
    | ']' :: rest => .ok ([v], rest)
    | ',' :: rest =>
      let (vs, rest) ← readItems fuel (skipSpace rest)
      .ok (v :: vs, rest)
    | rest => .error ⟨.comma, rest⟩

/-- The members of an object, up to and with the closing brace, put to those read
before.  A name that comes again takes the later value in the earlier place. -/
def readMembers : Nat → Entries Json → List Char → Except Stop (Entries Json × List Char)
  | 0, _, cs => .error ⟨.value, cs⟩
  | fuel + 1, ms, cs =>
    match cs with
    | '"' :: rest => do
      let (name, rest) ← readString cs rest
      match skipSpace rest with
      | ':' :: rest =>
        let (v, rest) ← readValue fuel (skipSpace rest)
        let ms := ms.set (String.ofList name) v
        match skipSpace rest with
        | '}' :: rest => .ok (ms, rest)
        | ',' :: rest => readMembers fuel ms (skipSpace rest)
        | rest => .error ⟨.comma, rest⟩
      | rest => .error ⟨.colon, rest⟩
    | cs => .error ⟨.name, cs⟩

end

/-- The value that a whole text writes.  A bracket takes two steps and every other character
at most one, so that twice the length of the text is enough, and one step for its end. -/
def parseChars (text : List Char) : Except Stop Json :=
  if text.head? = some '\uFEFF' then .error ⟨.mark, text⟩
  else do
    let (v, rest) ← readValue (2 * text.length + 1) (skipSpace text)
    match skipSpace rest with
    | [] => .ok v
    | rest => .error ⟨.extra, rest⟩

/-- The value that a text writes, or what is wrong with it and where. -/
def parse (text : String) : Except SyntaxError Json :=
  (parseChars text.toList).mapError (·.locate text.toList)

end Questionnaire.Json
