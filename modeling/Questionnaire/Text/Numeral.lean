/-
Whole numbers written as text.

A numeral is an optional sign and decimal digits of any script, where one
underscore may stand between two digits.  Blanks around it are dropped, except
that information separators are no blanks here.  More than 4300 digits are
refused, which bounds the work of reading.
-/
import Questionnaire.Text.Blank
import Questionnaire.Text.Digit

namespace Questionnaire.Text

/-- The greatest number of digits that a numeral may have. -/
def maxDigits : Nat := 4300

/-- The values of the digits, with single underscores between digits left out.
The flag says that the last character was a digit. -/
def digitValues : Bool → List Char → Option (List Nat)
  | afterDigit, [] => if afterDigit then some [] else none
  | afterDigit, c :: rest =>
    if c = '_' then if afterDigit then digitValues false rest else none
    else do
      let d ← digit? c
      let ds ← digitValues true rest
      return d :: ds

/-- The number that a list of digits writes. -/
def ofDigits (ds : List Nat) : Nat := ds.foldl (fun n d => 10 * n + d) 0

/-- The digits of a numeral without sign. -/
def natural? (cs : List Char) : Option Nat := do
  let ds ← digitValues false cs
  if ds.length ≤ maxDigits then some (ofDigits ds) else none

/-- The whole number that a text writes, if it writes one. -/
def integer? (s : String) : Option Int :=
  match trimBy (fun c => isBlank c && !isSeparator c) s.toList with
  | '-' :: cs => (natural? cs).map fun n => -(n : Int)
  | '+' :: cs => (natural? cs).map Int.ofNat
  | cs => (natural? cs).map Int.ofNat

/-- A whole number in decimal. -/
def decimal (n : Int) : String := toString n

example : integer? " +1_000 " = some 1000 := by decide +kernel
example : integer? "1__0" = none ∧ integer? "_1" = none ∧ integer? "1_" = none := by decide +kernel
example : integer? "" = none ∧ integer? "+-1" = none ∧ integer? "1.0" = none := by decide +kernel

end Questionnaire.Text
