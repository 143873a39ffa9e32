/-
Switches written as text.

A switch that is off says so in one of a few words, and so does one that is on; capital
letters do not matter.  The words are ASCII and no other letter has one of theirs as
its small form, so ASCII letters are all that has to be lowered.  The capitals of some other
letters are ASCII, though.
-/
import Questionnaire.Json.Display
import Questionnaire.Text.Blank

namespace Questionnaire

namespace Text

/-- A text with its ASCII capitals lowered. -/
def lower (s : String) : String := String.ofList (s.toList.map Char.toLower)

/-- The capitals of a letter that are ASCII although the letter is not. -/
def asciiCapitals : List (Char × String) :=
  [('ß', "SS"), ('ı', "I"), ('ſ', "S"), ('ﬀ', "FF"), ('ﬁ', "FI"), ('ﬂ', "FL"), ('ﬃ', "FFI"),
    ('ﬄ', "FFL"), ('ﬅ', "ST"), ('ﬆ', "ST")]

/-- A text in capitals, as far as these are ASCII. -/
def upper (s : String) : String :=
  String.ofList (s.toList.flatMap fun c =>
    match asciiCapitals.lookup c with
    | some capitals => capitals.toList
    | none => [c.toUpper])

/-- Whether a text switches something off; anything else leaves it on. -/
def switchesOff (s : String) : Bool := ["false", "0", "no", "off"].contains (lower s)

/-- Whether a text switches something on; anything else leaves it off. -/
def switchesOn (s : String) : Bool := ["1", "true", "yes", "on"].contains (lower (trim s))

end Text

/-- The switch that a value sets; null and the empty text leave it as it is. -/
def Json.flag (default : Bool) : Json → Bool
  | .null | .str "" => default
  | .bool b => b
  | v => Text.switchesOn v.words

end Questionnaire
