/-
JSON values.

Numbers without a fraction or exponent are whole and unbounded, all others are
doubles; the members of an object keep the order of the text.  `WellFormed` says
that every object names each member once, which is what reading guarantees.
-/
import Questionnaire.Decimal.Double
import Questionnaire.Entries

namespace Questionnaire

open Decimal (Double)

/-- A JSON value. -/
inductive Json
  | null
  | bool (b : Bool)
  | int (n : Int)
  | float (x : Double)
  | str (s : String)
  | arr (items : List Json)
  | obj (members : List (String × Json))
  deriving Inhabited

namespace Json

/-- The members of an object, none for any other value. -/
def members : Json → Entries Json
  | .obj ms => ms
  | _ => []

/-- The member of an object. -/
def get? (v : Json) (name : String) : Option Json := v.members.get? name

/-- The member of an object, null where it has none. -/
def getD (v : Json) (name : String) : Json := (v.get? name).getD .null

def isNull : Json → Bool
  | .null => true
  | _ => false

def isObject : Json → Bool
  | .obj _ => true
  | _ => false

/-- The text of a string value. -/
def str? : Json → Option String
  | .str s => some s
  | _ => none

/-- A text or, where there is none, null. -/
def ofText? : Option String → Json
  | some s => .str s
  | none => .null

/-- The value unless it is null. -/
def nonNull? : Json → Option Json
  | .null => none
  | v => some v

/-- Whether the value counts as yes: everything but null, false, zero and what is
empty. -/
def truthy : Json → Bool
  | .null => false
  | .bool b => b
  | .int n => n ≠ 0
  | .float x => !x.isZero
  | .str s => s ≠ ""
  | .arr items => !items.isEmpty
  | .obj ms => !ms.isEmpty

/-- The value if it counts as yes, else the other one. -/
def orElse (v other : Json) : Json := if v.truthy then v else other

mutual

/-- Every object names each member once. -/
def WellFormed : Json → Prop
  | .arr items => AllWellFormed items
  | .obj ms => (ms.map Prod.fst).Nodup ∧ MembersWellFormed ms
  | _ => True

def AllWellFormed : List Json → Prop
  | [] => True
  | v :: vs => WellFormed v ∧ AllWellFormed vs

def MembersWellFormed : List (String × Json) → Prop
  | [] => True
  | (_, v) :: ms => WellFormed v ∧ MembersWellFormed ms

end

end Json

end Questionnaire
