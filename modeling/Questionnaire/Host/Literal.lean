/-
Addresses of hosts in brackets.

What stands in brackets is an address of eight groups of hexadecimal digits, of which one row of
zeros may be left out and the last two may be written as four decimal numbers; a zone may
follow a percent sign.  Or it is of a version to come, which begins with its number.
-/
import Questionnaire.Json.Reader
import Questionnaire.Text.Numeral
import Questionnaire.Text.Split

namespace Questionnaire.Host

/-- Whether a text is a decimal number up to 255 without a zero in front. -/
def isOctet (cs : List Char) : Bool :=
  !cs.isEmpty && cs.length ≤ 3 && cs.all Char.isDigit && (cs = ['0'] || cs.head? ≠ some '0') &&
    (Text.natural? cs).any (· ≤ 255)

/-- Whether a text is four decimal numbers with points between. -/
def isDotted (cs : List Char) : Bool :=
  let octets := Text.splitAll '.' cs
  octets.length = 4 && octets.all isOctet

/-- Whether a text is a group of an address. -/
def isGroup (cs : List Char) : Bool :=
  !cs.isEmpty && cs.length ≤ 4 && cs.all fun c => (Json.hexDigit? c).isSome

/-- The groups of an address; four decimal numbers at the end are two groups. -/
def groups (cs : List Char) : Option (List (List Char)) :=
  let parts := Text.splitAll ':' cs
  match parts.getLast? with
  | some last =>
    if last.contains '.' then
      if isDotted last then some (parts.dropLast ++ [['0'], ['0']]) else none
    else some parts
  | none => none

/-- Whether groups are all there, or a row of zeros is left out between two colons. -/
def isWhole (groups : List (List Char)) : Bool :=
  let inner := groups.tail.dropLast
  match inner.findIdx? (·.isEmpty) with
  | none => groups.length = 8 && groups.all isGroup
  | some i =>
    let front := groups.take (i + 1)
    let back := groups.drop (i + 2)
    let front := if front = [[]] then [] else front
    let back := if back = [[]] then [] else back
    front.all isGroup && back.all isGroup && front.length + back.length < 8

/-- Whether a text is an address of groups. -/
def isGrouped (cs : List Char) : Bool :=
  let (address, zone) := Text.splitFirst '%' cs
  !cs.contains '/' && zone.all (fun z => !z.isEmpty && !z.contains '%') &&
    match groups address with
    | some groups => 3 ≤ (Text.splitAll ':' address).length && isWhole groups
    | none => false

/-- Whether a text is an address of a version to come. -/
def isFuture (cs : List Char) : Bool :=
  match Text.splitFirst '.' cs with
  | ('v' :: version, some rest) =>
    !version.isEmpty && version.all (fun c => (Json.hexDigit? c).isSome) && !rest.isEmpty
  | _ => false

/-- Whether brackets may hold a text. -/
def isLiteral (cs : List Char) : Bool :=
  if cs.head? = some 'v' then isFuture cs else isGrouped cs

example : isLiteral "::1".toList ∧ isLiteral "1::".toList ∧ isLiteral "::".toList := by
  decide +kernel
example : isLiteral "1:2:3:4:5:6:7:8".toList ∧ isLiteral "::ffff:1.2.3.4".toList ∧
    isLiteral "fe80::1%eth0".toList ∧ isLiteral "v1.x".toList := by decide +kernel
example : ¬ isLiteral "1.2".toList ∧ ¬ isLiteral "1.2.3.4".toList ∧ ¬ isLiteral "".toList ∧
    ¬ isLiteral "1::2::3".toList ∧ ¬ isLiteral ":1:2:3:4:5:6:7:8".toList := by decide +kernel

end Questionnaire.Host
