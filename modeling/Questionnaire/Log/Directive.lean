/-
One place of a message.

A directive says how a value is written in its place: as words, as a whole number in some
base, as a double with so many digits, or as one character; and how it is filled up to a
width.  Zeros fill a number between its sign and its digits, blanks fill anything on
either side.
-/
import Questionnaire.Json.Display
import Questionnaire.Json.Whole
import Questionnaire.Decimal.Fixed

namespace Questionnaire.Log

/-- How a value is written in its place. -/
structure Directive where
  /-- Whether what fills the width stands behind. -/
  left : Bool := false
  /-- Whether a number without a minus gets a plus. -/
  plus : Bool := false
  /-- Whether a number without a sign gets a blank. -/
  blank : Bool := false
  /-- Whether a base or a point is shown where it could go without. -/
  full : Bool := false
  /-- Whether a number is filled with zeros. -/
  zero : Bool := false
  width : Nat := 0
  precision : Option Nat := none
  deriving DecidableEq, Repr

/-- A written value before it is filled up. -/
structure Written where
  /-- Sign and base, which stand before any zeros. -/
  lead : List Char := []
  body : List Char
  /-- Whether zeros may fill it. -/
  isNumber : Bool := false
  deriving DecidableEq, Repr

namespace Directive

/-- A written value filled up to the width. -/
def fill (d : Directive) (w : Written) : List Char :=
  let missing := d.width - (w.lead.length + w.body.length)
  if d.left then w.lead ++ w.body ++ List.replicate missing ' '
  else if d.zero && w.isNumber then w.lead ++ List.replicate missing '0' ++ w.body
  else List.replicate missing ' ' ++ w.lead ++ w.body

/-- The sign of a number. -/
def sign (d : Directive) (negative : Bool) : List Char :=
  if negative then ['-'] else if d.plus then ['+'] else if d.blank then [' '] else []

/-- Words, cut to the precision. -/
def words (d : Directive) (s : String) : Written :=
  { body := match d.precision with
      | some n => s.toList.take n
      | none => s.toList }

/-- A whole number in a base. -/
def whole (d : Directive) (base : Nat) (mark : List Char) (n : Int) : Written :=
  let digits := Nat.toDigits base n.natAbs
  let zeros := List.replicate (d.precision.getD 0 - digits.length) '0'
  { lead := d.sign (n < 0) ++ (if d.full then mark else [])
    body := zeros ++ digits
    isNumber := true }

/-- A double, whose magnitude the given function writes. -/
def double (d : Directive) (digits : Nat → Bool → Decimal.Finite → List Char) :
    Decimal.Double → Written
  | .finite x =>
    { lead := d.sign x.negative, body := digits (d.precision.getD 6) d.full x, isNumber := true }
  | .infinite negative => { lead := d.sign negative, body := "inf".toList, isNumber := true }
  | .nan => { lead := d.sign false, body := "nan".toList, isNumber := true }

end Directive

/-- The double that a value counts for. -/
def doubleOf : Json → Except Misfit Decimal.Double
  | .float x => .ok x
  | .bool b => .ok (Decimal.Double.ofInt (if b then 1 else 0))
  | .int n =>
    match Decimal.Double.ofInt n with
    | .infinite _ => .error .range
    | x => .ok x
  | _ => .error .kind

/-- The whole number that a value counts for; texts do not count here. -/
def wholeOf : Json → Except Misfit Int
  | .str _ => .error .kind
  | v => v.whole

/-- The whole number that a value is. -/
def exactOf : Json → Except Misfit Int
  | .int n => .ok n
  | .bool b => .ok (if b then 1 else 0)
  | _ => .error .kind

/-- The one character that a value is, or that it is the number of. -/
def characterOf : Json → Except Misfit Char
  | .str s =>
    match s.toList with
    | [c] => .ok c
    | _ => .error .kind
  | v => do
    let n ← exactOf v
    if 0 ≤ n && n < 0x110000 then .ok (Char.ofNat n.toNat) else .error .range

/-- A text in which everything beyond ASCII is written by its number. -/
def escapeBeyond (s : String) : String :=
  String.ofList (s.toList.flatMap fun c =>
    if c.toNat < 0x80 then [c]
    else if c.toNat ≤ 0xFF then '\\' :: 'x' :: Text.hex 2 c.toNat
    else if c.toNat ≤ 0xFFFF then '\\' :: 'u' :: Text.hex 4 c.toNat
    else '\\' :: 'U' :: Text.hex 8 c.toNat)

/-- Written in capitals. -/
def Written.capitals (w : Written) : Written :=
  { w with lead := w.lead.map Char.toUpper, body := w.body.map Char.toUpper }

/-- The value in its place, by the letter of the directive. -/
def Directive.write (d : Directive) (letter : Char) (v : Json) : Except Misfit (List Char) :=
  d.fill <$> match letter with
  | 's' => .ok (d.words v.words)
  | 'r' => .ok (d.words v.display)
  | 'a' => .ok (d.words (escapeBeyond v.display))
  | 'd' | 'i' | 'u' => (d.whole 10 []) <$> wholeOf v
  | 'o' => (d.whole 8 ['0', 'o']) <$> exactOf v
  | 'x' => (d.whole 16 ['0', 'x']) <$> exactOf v
  | 'X' => (fun n => (d.whole 16 ['0', 'x'] n).capitals) <$> exactOf v
  | 'f' => (d.double Decimal.fixedDigits) <$> doubleOf v
  | 'F' => (fun x => (d.double Decimal.fixedDigits x).capitals) <$> doubleOf v
  | 'e' => (d.double Decimal.scientificDigits) <$> doubleOf v
  | 'E' => (fun x => (d.double Decimal.scientificDigits x).capitals) <$> doubleOf v
  | 'g' => (d.double Decimal.generalDigits) <$> doubleOf v
  | 'G' => (fun x => (d.double Decimal.generalDigits x).capitals) <$> doubleOf v
  | 'c' => (fun c => { body := [c] }) <$> characterOf v
  | _ => .error .content

end Questionnaire.Log
