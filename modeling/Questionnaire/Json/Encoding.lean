/-
How the bytes of a value's text are encoded.

The text of a value begins with two ASCII characters, so the zeros among its first bytes tell
whether a character takes one byte, two or four, and in which order.  Half of a pair alone is
let through, as it is in an escape.
-/
import Questionnaire.Json.Reader
import Questionnaire.Text.Utf8

namespace Questionnaire.Json

/-- An encoding, with the order of bytes where a unit has several. -/
inductive Encoding
  | utf8
  | utf16 (bigEndian : Bool)
  | utf32 (bigEndian : Bool)
  deriving DecidableEq, Repr

namespace Encoding

/-- The encoding that the first bytes of a text tell. -/
def ofFront : List Nat → Encoding
  | 0 :: 0 :: _ :: _ :: _ => .utf32 true
  | 0 :: _ :: _ :: _ :: _ => .utf16 true
  | _ :: 0 :: 0 :: 0 :: _ => .utf32 false
  | _ :: 0 :: _ :: _ :: _ => .utf16 false
  | [0, _] => .utf16 true
  | [_, 0] => .utf16 false
  | _ => .utf8

/-- The units of two bytes each; none if a byte is left over. -/
def pairs? (bigEndian : Bool) : List Nat → Option (List Nat)
  | [] => some []
  | a :: b :: rest => do
    let units ← pairs? bigEndian rest
    return (if bigEndian then a * 0x100 + b else b * 0x100 + a) :: units
  | _ => none

/-- The units of four bytes each; none if bytes are left over. -/
def quads? (bigEndian : Bool) : List Nat → Option (List Nat)
  | [] => some []
  | a :: b :: c :: d :: rest => do
    let units ← quads? bigEndian rest
    return (if bigEndian then ((a * 0x100 + b) * 0x100 + c) * 0x100 + d
      else ((d * 0x100 + c) * 0x100 + b) * 0x100 + a) :: units
  | _ => none

/-- The characters that units of two bytes write. -/
def ofUnits : List Nat → List Char
  | high :: low :: rest =>
    if isHighSurrogate high && isLowSurrogate low then pairChar high low :: ofUnits rest
    else unitChar high :: ofUnits (low :: rest)
  | [n] => [unitChar n]
  | [] => []

/-- The text that bytes write, if they write one. -/
def decode? : Encoding → List Nat → Option String
  | .utf8, bytes => some (Text.ofBytes bytes)
  | .utf16 bigEndian, bytes => do
    return String.ofList (ofUnits (← pairs? bigEndian bytes))
  | .utf32 bigEndian, bytes => do
    let points ← quads? bigEndian bytes
    if points.all (· < 0x110000) then some (String.ofList (points.map unitChar)) else none

end Encoding

example : (Encoding.ofFront [0x31, 0]).decode? [0x31, 0] = some "1" := by decide
example : (Encoding.utf16 true).decode? [0xD8, 0x3D, 0xDE, 0x00] = some "😀" := by decide
example : (Encoding.utf32 false).decode? [0, 0, 0x11, 0] = none := by decide

end Questionnaire.Json
