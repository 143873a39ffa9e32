/-
How a value names a row.

A row is named by its id, and by every value that a column of numbers would hold as that id.
A list of one value, and a record of nothing but an id, stand for what they hold.  A value
that a column can take but that is no whole number names no row.
-/
import Questionnaire.Database.Number

namespace Questionnaire.Database

/-- The id that a value stands for, if it stands for one. -/
def id? (v : Json) : Except Failure (Option Int) := do
  return (← number v).bind Number.whole?

/-- The one value by which a row is named. -/
def single : Json → Except Failure Json
  | .arr [v] => .ok v
  | .obj [("id", v)] => .ok v
  | .arr _ | .obj _ => .error .unnamed
  | v => .ok v

/-- Whether a value is no list and no record. -/
def isPlain : Json → Bool
  | .arr _ | .obj _ => false
  | _ => true

theorem id?_int (n : Int) : id? (.int n) = (checked n).map some := by
  simp only [id?, number]
  cases checked n <;> rfl

example : (id? (.str " 01")).toOption = some (some 1) := by decide +kernel
example : (id? (.str "one")).toOption = some none := by decide +kernel

end Questionnaire.Database
