/-
Taking text apart at a character.

A text is cut at the first place where a character stands, or at every such place; the
character itself is in none of the parts.
-/

namespace Questionnaire.Text

/-- The characters before the first of a kind, and those behind it if there is one. -/
def splitFirst (c : Char) (cs : List Char) : List Char × Option (List Char) :=
  match cs.dropWhile (· ≠ c) with
  | [] => (cs, none)
  | _ :: rest => (cs.takeWhile (· ≠ c), some rest)

/-- The characters before the last of a kind if there is one, and those behind it. -/
def splitLast (c : Char) (cs : List Char) : Option (List Char) × List Char :=
  match splitFirst c cs.reverse with
  | (back, front) => (front.map List.reverse, back.reverse)

/-- The parts between separators. -/
def splitAll (c : Char) : List Char → List (List Char)
  | [] => [[]]
  | d :: rest =>
    if d = c then [] :: splitAll c rest
    else
      match splitAll c rest with
      | part :: parts => (d :: part) :: parts
      | [] => [[d]]

/-- The parts of a text between separators. -/
def parts (c : Char) (s : String) : List String := (splitAll c s.toList).map String.ofList

/-- Whether characters stand next to each other somewhere in a list. -/
def occurs (needle : List Char) : List Char → Bool
  | [] => needle.isEmpty
  | c :: cs => needle.isPrefixOf (c :: cs) || occurs needle cs

example : splitFirst ':' "a:b:c".toList = ("a".toList, some "b:c".toList) := by decide
example : splitLast ':' "a:b:c".toList = (some "a:b".toList, "c".toList) := by decide
example : splitLast ':' "abc".toList = (none, "abc".toList) := by decide
example : parts ',' "a,,b" = ["a", "", "b"] := by decide +kernel

end Questionnaire.Text
