/-
The servers that addresses name.

A server is a host, with a port behind a colon if it has one, and in front of an at sign who
is asking.  Two names of a server are the same when their forms in plain letters are.  A server
can be asked only by a host of plain letters or by an address in brackets.
-/
import Questionnaire.Host.Literal
import Questionnaire.Host.Name
import Questionnaire.Misfit
import Questionnaire.Text.Flag
import Questionnaire.Text.Percent

namespace Questionnaire.Host

/-! ### Reading the name of a server -/

/-- Whether brackets and letters are such that a server can be looked for: a bracket has its other
half and holds an address, and no letter hides what parts an address. -/
def isReadable (cs : List Char) : Bool :=
  let opened := (Text.splitFirst '[' cs).2
  opened.isSome = cs.contains ']' &&
    opened.all (fun inner => isLiteral (Text.splitFirst ']' inner).1) &&
    !cs.any hiddenDelimiters.contains

/-- The host of a server and what is written as its port. -/
def hostAndPort (cs : List Char) : List Char × Option (List Char) :=
  match Text.splitFirst '[' cs with
  | (_, some inner) =>
    let (host, behind) := Text.splitFirst ']' inner
    (host, (Text.splitFirst ':' (behind.getD [])).2)
  | (_, none) => Text.splitFirst ':' cs

/-- The number of a port, if it is one. -/
def readPort? (digits : List Char) : Option Nat := do
  let n ← if digits.all Char.isDigit then Text.natural? digits else none
  if n < 0x10000 then some n else none

/-- A host in small letters; the zone of an address keeps its own. -/
def lowerHost (cs : List Char) : List Char :=
  let isHost (c : Char) : Bool := c ≠ '%'
  (cs.takeWhile isHost).map Char.toLower ++ cs.dropWhile isHost

/-- The characters that stand for themselves in the name of who is asking. -/
def personMarks : List Char := "%!$&'()*+,;=".toList

/-- Who is asking, and the password behind a colon, as they stand in front of the host. -/
def personText (cs : List Char) : List Char :=
  let (name, password) := Text.splitFirst ':' cs
  let text (part : List Char) : List Char := (Text.quote personMarks (String.ofList part)).toList
  let password := password.getD []
  if name.isEmpty then []
  else text name ++ (if password.isEmpty then [] else ':' :: text password) ++ ['@']

/-- The name of a server in plain letters, with its port in plain digits. -/
def serverName (written : List Char) : Except Misfit (List Char) := do
  let (person, place) := Text.splitLast '@' written
  let (host, port) := hostAndPort place
  let name ← match asciiName? (lowerHost host) with
    | some name => pure (if name.contains ':' then '[' :: name ++ [']'] else name)
    | none => throw .letters
  let port ← match port.getD [] with
    | [] => pure []
    | digits =>
      match readPort? digits with
      | some n => pure (':' :: (Text.decimal n).toList)
      | none => throw .content
  return personText (person.getD []) ++ name ++ port

/-! ### Asking a server -/

/-- The port that goes without saying. -/
def usualPort? (scheme : String) : Option (List Char) :=
  if ["http", "ws"].contains scheme then some ":80".toList
  else if ["https", "wss"].contains scheme then some ":443".toList
  else none

/-- The name of a server without the port that goes without saying. -/
def withoutUsualPort (scheme : String) (name : List Char) : List Char :=
  match usualPort? scheme with
  | some port => if port.isSuffixOf name then name.take (name.length - port.length) else name
  | none => name

/-- Whether a text can be a port in the name of a server to ask: a number without a zero in
front. -/
def isPort (cs : List Char) : Bool := cs.head? ≠ some '0' && !cs.isEmpty && (readPort? cs).isSome

/-- Whether a text is a host of plain letters. -/
def isPlainHost (cs : List Char) : Bool :=
  !cs.isEmpty && cs.all fun c => c.isAlphanum || c = '.' || c = '-'

/-- Whether a text in brackets is written like an address. -/
def isBracketed (cs : List Char) : Bool :=
  match Text.splitFirst ':' cs with
  | (front, some back) =>
    let isHex (c : Char) : Bool := (Json.hexDigit? c).isSome
    front.all isHex && !back.isEmpty && back.all fun c => isHex c || c = '.' || c = ':'
  | (_, none) => false

/-- Whether a server can be asked by a name. -/
def isAskable (name : List Char) : Bool :=
  match name with
  | '[' :: inner =>
    match Text.splitFirst ']' inner with
    | (address, some []) => isBracketed address
    | (address, some (':' :: port)) => isBracketed address && isPort port
    | _ => false
  | name =>
    match Text.splitFirst ':' name with
    | (host, some port) => isPlainHost host && isPort port
    | (host, none) => isPlainHost host

/-- Whether the labels of the host in the name of a server have the lengths they may have. -/
def isLabelled (name : List Char) : Bool := (asciiName? (Text.splitFirst ':' name).1).isSome

example : isAskable "a-z.0:8".toList ∧ isAskable "[::1]:8".toList ∧ isAskable "h.".toList := by
  decide +kernel
example : ¬ isAskable "h:080".toList ∧ ¬ isAskable "h:65536".toList ∧ ¬ isAskable "h:".toList ∧
    ¬ isAskable "u@h".toList ∧ ¬ isAskable "[1.2]".toList ∧ ¬ isAskable "".toList := by
  decide +kernel

end Questionnaire.Host
