/-
Text with percent signs.

In an address, a percent sign with two hexadecimal digits writes a byte, so that any text can
be written in the few characters that stand for themselves.
-/
import Questionnaire.Json.Reader
import Questionnaire.Text.Quoted
import Questionnaire.Text.Utf8

namespace Questionnaire.Text

/-- The bytes that a text writes with percent signs. -/
def percentBytes : List Char → List Nat
  | '%' :: a :: b :: rest =>
    match Json.hexDigit? a, Json.hexDigit? b with
    | some high, some low => (high * 16 + low) :: percentBytes rest
    | _, _ => 0x25 :: percentBytes (a :: b :: rest)
  | c :: rest => toBytes (String.singleton c) ++ percentBytes rest
  | [] => []

/-- The text that a text writes with percent signs. -/
def unquote (s : String) : String := ofBytes (percentBytes s.toList)

/-- Bytes in percent signs. -/
def percentSigns (bytes : List Nat) : List Char :=
  bytes.flatMap fun b => '%' :: (hex 2 b).map Char.toUpper

/-- The text that a text writes with percent signs, where bytes that write no character stay in
percent signs. -/
def unquoteReadable (s : String) : String :=
  String.ofList (readBytes percentSigns none (percentBytes s.toList))

/-- Whether a character stands for itself in an address wherever it stands. -/
def isUnreserved (c : Char) : Bool :=
  ('A' ≤ c && c ≤ 'Z') || ('a' ≤ c && c ≤ 'z') || ('0' ≤ c && c ≤ '9') ||
  c = '_' || c = '.' || c = '-' || c = '~'

/-- A text in which every character but the unreserved and some others is written in percent
signs. -/
def quote (marks : List Char) (s : String) : String :=
  String.ofList (s.toList.flatMap fun c =>
    if isUnreserved c || marks.contains c then [c]
    else percentSigns (toBytes (String.singleton c)))

example : unquote "a%20b%C3%A9%zz" = "a bé%zz" := by decide +kernel
example : quote ['/'] "/a b/é%" = "/a%20b/%C3%A9%25" := by decide +kernel

end Questionnaire.Text
