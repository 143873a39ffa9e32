/-
What a text column holds.

A text column holds text or nothing.  Numbers and truth values turn into text on the way
in, doubles with at most fifteen digits; a NaN turns into nothing.  Whole numbers pass
through sixty-four bits and must fit them.  Lists and records do not fit at all.
-/
import Questionnaire.Json.Display
import Questionnaire.Decimal.Drawn
import Questionnaire.Failure

namespace Questionnaire.Database

/-- Whether a whole number fits sixty-four bits. -/
def fits (n : Int) : Bool := -2 ^ 63 ≤ n && n < 2 ^ 63

/-- A whole number that fits sixty-four bits. -/
def checked (n : Int) : Except Failure Int := if fits n then .ok n else .error (.misfit .range)

/-- The layout of doubles in a text column. -/
def layout : Decimal.Layout := ⟨-4, 15, 2, "Inf", "NaN", true⟩

/-- What a text column holds for a value. -/
def column : Json → Except Failure (Option String)
  | .null | .float .nan => .ok none
  | .bool b => .ok (some (if b then "1" else "0"))
  | .int n => do return some (Text.decimal (← checked n))
  | .float x => .ok (some (layout.textIn 15 x))
  | .str s => .ok (some s)
  | .arr _ | .obj _ => .error .unstorable

end Questionnaire.Database
