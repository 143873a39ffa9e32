/-
Text from bytes.

Bytes that are no UTF-8 are not refused.  Every longest beginning of a character that is cut
off, and every byte that begins none, is handed to whoever reads, who says what stands
in for it: usually one replacement character.
-/

namespace Questionnaire.Text

/-- What the first bytes of a character announce: the number of bytes that follow, the bits so
far, the range of the next byte, and the bytes themselves. -/
structure Lead where
  count : Nat
  bits : Nat
  least : Nat := 0x80
  greatest : Nat := 0xBF
  bytes : List Nat
  deriving DecidableEq, Repr

/-- What a byte announces as the first of several. -/
def lead? (b : Nat) : Option Lead :=
  if 0xC2 ≤ b ∧ b ≤ 0xDF then some ⟨1, b - 0xC0, 0x80, 0xBF, [b]⟩
  else if b = 0xE0 then some ⟨2, 0, 0xA0, 0xBF, [b]⟩
  else if b = 0xED then some ⟨2, 13, 0x80, 0x9F, [b]⟩
  else if 0xE1 ≤ b ∧ b ≤ 0xEF then some ⟨2, b - 0xE0, 0x80, 0xBF, [b]⟩
  else if b = 0xF0 then some ⟨3, 0, 0x90, 0xBF, [b]⟩
  else if b = 0xF4 then some ⟨3, 4, 0x80, 0x8F, [b]⟩
  else if 0xF1 ≤ b ∧ b ≤ 0xF3 then some ⟨3, b - 0xF0, 0x80, 0xBF, [b]⟩
  else none

/-- Reads bytes, where some of a character may be read already; `standIn` gives what stands for
bytes that are no character. -/
def readBytes (standIn : List Nat → List Char) : (pending : Option Lead) → List Nat → List Char
  | none, [] => []
  | some lead, [] => standIn lead.bytes
  | none, b :: rest =>
    if b < 0x80 then Char.ofNat b :: readBytes standIn none rest
    else
      match lead? b with
      | some lead => readBytes standIn (some lead) rest
      | none => standIn [b] ++ readBytes standIn none rest
  | some lead, b :: rest =>
    if lead.least ≤ b ∧ b ≤ lead.greatest then
      let bits := lead.bits * 0x40 + (b - 0x80)
      if lead.count ≤ 1 then Char.ofNat bits :: readBytes standIn none rest
      else readBytes standIn (some ⟨lead.count - 1, bits, 0x80, 0xBF, lead.bytes ++ [b]⟩) rest
    else if b < 0x80 then standIn lead.bytes ++ Char.ofNat b :: readBytes standIn none rest
    else
      match lead? b with
      | some next => standIn lead.bytes ++ readBytes standIn (some next) rest
      | none => standIn lead.bytes ++ standIn [b] ++ readBytes standIn none rest

/-- The text of some bytes, with a replacement character for what cannot be read. -/
def ofBytes (bytes : List Nat) : String :=
  String.ofList (readBytes (fun _ => ['\uFFFD']) none bytes)

/-- The bytes of a text. -/
def toBytes (s : String) : List Nat := s.toUTF8.toList.map UInt8.toNat

example : ofBytes [0x61, 0xC3, 0xA9, 0xE2, 0x82, 0xAC, 0xF0, 0x9F, 0x98, 0x80] = "aé€😀" := by decide
example : ofBytes [0xFF, 0xE2, 0x82, 0x41, 0xC0, 0x80] = "\uFFFD\uFFFDA\uFFFD\uFFFD" := by decide

end Questionnaire.Text
