/-
Values of the fields of a questionnaire.

A field goes by the name of its question, a text as a rule; a number or a truth value is a name
as well.  Numbers and truth values that are equal name one field, and no text names a field that
a number names.  A field keeps the place and the name that it got first.

Only fields named by a text are fields of the presentation.  To be told, every field goes by its
name in words, and of several with the same words the last one is told.
-/
import Questionnaire.Json.Display
import Questionnaire.Json.Equal

namespace Questionnaire

/-- Values of fields in order of arrival. -/
abbrev Fields (α : Type u) := List (Json × α)

namespace Fields

variable {α : Type u} {β : Type v}

/-- Whether a value can name a field.  Lists and records cannot. -/
def isName : Json → Bool
  | .arr _ | .obj _ => false
  | _ => true

/-- The value of a field. -/
def get? : Fields α → Json → Option α
  | [], _ => none
  | (name, v) :: rest, id => if name.samePart id then some v else get? rest id

/-- Whether a field is there. -/
def has (fs : Fields α) (id : Json) : Bool := (get? fs id).isSome

/-- The names of the fields in order. -/
def ids (fs : Fields α) : List Json := fs.map Prod.fst

/-- Gives a field a value: in its place if the field is there, else at the end. -/
def set : Fields α → Json → α → Fields α
  | [], id, value => [(id, value)]
  | (name, v) :: rest, id, value =>
    if name.samePart id then (name, value) :: rest else (name, v) :: set rest id value

/-- Takes a field away. -/
def erase (fs : Fields α) (id : Json) : Fields α := fs.filter fun f => !f.1.samePart id

/-- The same fields with other values. -/
def mapValues (f : α → β) (fs : Fields α) : Fields β := fs.map fun e => (e.1, f e.2)

/-- Fields that texts name. -/
def ofEntries (es : Entries α) : Fields α := es.map fun e => (.str e.1, e.2)

/-- The fields that a text names. -/
def named (fs : Fields α) : Entries α := fs.filterMap fun f => f.1.str?.map (·, f.2)

/-- The fields under their names in words. -/
def inWords (fs : Fields α) : Entries α := Entries.setAll [] (fs.map fun f => (f.1.words, f.2))

/-! ### Fields that texts name behave as entries -/

theorem samePart_str (name other : String) :
    (Json.str name).samePart (.str other) = (name == other) := by
  simp [Json.samePart, Json.isNaN, Json.equal]

/-- A value that is no text names no field that a text names. -/
theorem samePart_str_of_no_text {id : Json} (h : id.str? = none) (name : String) :
    id.samePart (.str name) = false := by
  cases id <;>
    simp_all [Json.samePart, Json.isNaN, Json.equal, Json.numericEqual?, Json.number?, Json.str?]

@[simp] theorem named_cons_str (name : String) (v : α) (fs : Fields α) :
    named ((.str name, v) :: fs) = (name, v) :: named fs := rfl

theorem named_cons_of_no_text {id : Json} (h : id.str? = none) (v : α) (fs : Fields α) :
    named ((id, v) :: fs) = named fs := by
  simp [named, h]

@[simp] theorem named_ofEntries (es : Entries α) : named (ofEntries es) = es := by
  induction es with
  | nil => rfl
  | cons e rest ih => exact congrArg (e :: ·) ih

/-- A field that a text names is found among the named ones. -/
theorem get?_str (fs : Fields α) (name : String) :
    get? fs (.str name) = Entries.get? (named fs) name := by
  induction fs with
  | nil => rfl
  | cons f rest ih =>
    obtain ⟨id, v⟩ := f
    by_cases hid : id.str? = none
    · simp [get?, samePart_str_of_no_text hid, named_cons_of_no_text hid, ih]
    · cases id <;> simp only [Json.str?, not_true_eq_false] at hid
      rename_i n
      simp [get?, samePart_str, Entries.get?_cons, ih, eq_comm (a := n)]

/-- Giving a value to a field that a text names is an entry under that text. -/
theorem named_set_str (fs : Fields α) (name : String) (value : α) :
    named (set fs (.str name) value) = Entries.set (named fs) name value := by
  induction fs with
  | nil => rfl
  | cons f rest ih =>
    obtain ⟨id, v⟩ := f
    by_cases hid : id.str? = none
    · simp [set, samePart_str_of_no_text hid, named_cons_of_no_text hid, ih]
    · cases id <;> simp only [Json.str?, not_true_eq_false] at hid
      rename_i n
      by_cases h : n = name
      · simp [set, samePart_str, Entries.set, h]
      · simp [set, samePart_str, Entries.set, h, ih]

end Fields

end Questionnaire
