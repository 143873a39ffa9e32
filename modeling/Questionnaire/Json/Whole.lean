/-
The whole number that a value counts for.

Doubles lose their fraction, texts are read as numerals and truth values count as
zero and one.  A text that writes no number and a NaN are unusable content, the
infinities are out of range, and no other kind counts for a number.
-/
import Questionnaire.Json.Value
import Questionnaire.Misfit
import Questionnaire.Text.Numeral

namespace Questionnaire.Json

/-- The whole number that a value counts for. -/
def whole : Json → Except Misfit Int
  | .bool b => .ok (if b then 1 else 0)
  | .int n => .ok n
  | .float (.finite x) => .ok (Decimal.Double.truncate x)
  | .float (.infinite _) => .error .range
  | .float .nan => .error .content
  | .str s =>
    match Text.integer? s with
    | some n => .ok n
    | none => .error .content
  | .null | .arr _ | .obj _ => .error .kind

end Questionnaire.Json
