/-
Names of hosts.

A name is a row of labels with points between; the last label may be empty.  A label has at
least one letter and at most sixty-three.  Labels with letters beyond ASCII are written in
ASCII, behind a mark that tells them apart.
-/
import Questionnaire.Host.Letters
import Questionnaire.Host.Punycode

namespace Questionnaire.Host

/-- Whether letters are all ASCII. -/
def isAscii (cs : List Char) : Bool := cs.all (·.toNat < 0x80)

/-- The mark in front of a label that is written in ASCII. -/
def asciiMark : List Char := "xn--".toList

/-- A label in ASCII, if it can be written so. -/
def asciiLabel? (label : List Char) : Option (List Char) := do
  let letters ← if isAscii label then some label else prepare? label
  let written ←
    if isAscii letters then some letters
    else if asciiMark.isPrefixOf letters then none
    else some (asciiMark ++ Punycode.encode letters)
  if 0 < written.length && written.length < 64 then some written else none

/-- The points that may stand between labels. -/
def isPoint (c : Char) : Bool := ['.', '。', '．', '｡'].contains c

/-- A name in ASCII, if it can be written so. -/
def asciiName? (name : List Char) : Option (List Char) := do
  let labels := Text.splitAll '.' (name.map fun c => if isPoint c then '.' else c)
  let front ← labels.dropLast.mapM asciiLabel?
  let last ← match labels.getLast? with
    | some (c :: cs) => asciiLabel? (c :: cs)
    | _ => some []
  return ['.'].intercalate (front ++ [last])

/-- The characters that stand for others of which one parts an address. -/
def hiddenDelimiters : List Char :=
  ['⁇', '⁈', '⁉', '℀', '℁', '℅', '℆', '⩴', '︓', '︖', '﹕', '﹖', '﹟', '﹫', '＃', '／', '：', '？', '＠']

end Questionnaire.Host
