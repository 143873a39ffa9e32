/-
White space.

A character is blank when Unicode gives it the property White_Space or the
bidirectional class of a separator: the usual controls, the four information
separators U+001C to U+001F, and every space, line and paragraph separator.
Comments, trimming and the reading of numbers all use this one class; the
information separators alone are set apart, since they do not surround a number.
-/

namespace Questionnaire.Text

/-- The four information separators, U+001C to U+001F. -/
def isSeparator (c : Char) : Bool := 0x1C ≤ c.toNat && c.toNat ≤ 0x1F

/-- White space in the wide sense. -/
def isBlank (c : Char) : Bool :=
  let n := c.toNat
  (0x09 ≤ n && n ≤ 0x0D) || isSeparator c || n == 0x20 || n == 0x85 || n == 0xA0 ||
  n == 0x1680 || (0x2000 ≤ n && n ≤ 0x200A) || n == 0x2028 || n == 0x2029 ||
  n == 0x202F || n == 0x205F || n == 0x3000

/-- The wide class holds core's white space. -/
theorem isBlank_of_isWhitespace {c : Char} (h : c.isWhitespace = true) : isBlank c = true := by
  simp only [Char.isWhitespace, Bool.or_eq_true, decide_eq_true_eq] at h
  rcases h with ((rfl | rfl) | rfl) | rfl <;> decide

/-- A list of characters without the marked ones at either end. -/
def trimBy (drop : Char → Bool) (cs : List Char) : List Char :=
  ((cs.dropWhile drop).reverse.dropWhile drop).reverse

/-- A text without the blanks at either end. -/
def trim (s : String) : String := String.ofList (trimBy isBlank s.toList)

/-- A text without the given character at its end. -/
def dropTrailing (c : Char) (s : String) : String :=
  String.ofList (s.toList.reverse.dropWhile (· == c)).reverse

/-- A text without the given character at either end. -/
def strip (c : Char) (s : String) : String := String.ofList (trimBy (· == c) s.toList)

/-- The first characters of a text, at most the given number. -/
def take (n : Nat) (s : String) : String := String.ofList (s.toList.take n)

end Questionnaire.Text
