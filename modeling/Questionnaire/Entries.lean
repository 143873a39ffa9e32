/-
Values under names, in the order in which the names came.

Answers, their versions, the members of a JSON object and the attributes of an item
all are lists of named values in which every name stands once.  Setting a name that
is there keeps its place; a new name goes to the end.
-/

namespace Questionnaire

/-- Named values in order of arrival. -/
abbrev Entries (α : Type u) := List (String × α)

namespace Entries

variable {α : Type u} {β : Type v}

/-- The value under a name. -/
def get? (es : Entries α) (name : String) : Option α := es.lookup name

/-- Whether a name is there. -/
def has (es : Entries α) (name : String) : Bool := (get? es name).isSome

/-- The names in order. -/
def names (es : Entries α) : List String := es.map Prod.fst

/-- Puts a value under a name: in its place if the name is there, else at the end. -/
def set (es : Entries α) (name : String) (value : α) : Entries α :=
  match es with
  | [] => [(name, value)]
  | (n, v) :: rest => if n = name then (n, value) :: rest else (n, v) :: set rest name value

/-- Takes a name away. -/
def erase (es : Entries α) (name : String) : Entries α := es.filter (·.1 ≠ name)

/-- Sets one name after the other. -/
def setAll (es : Entries α) (more : Entries α) : Entries α :=
  more.foldl (fun acc e => set acc e.1 e.2) es

/-- The same names with other values. -/
def mapValues (f : α → β) (es : Entries α) : Entries β := es.map fun e => (e.1, f e.2)

/-! ### What looking up gives after a change -/

@[simp] theorem get?_nil (name : String) : get? ([] : Entries α) name = none := rfl

theorem get?_cons (n : String) (v : α) (es : Entries α) (name : String) :
    get? ((n, v) :: es) name = if name = n then some v else get? es name := by
  simp only [get?, List.lookup_cons]
  by_cases h : name = n
  · simp [h]
  · rw [beq_eq_false_iff_ne.2 h, if_neg h]

@[simp] theorem get?_set_self (es : Entries α) (name : String) (value : α) :
    get? (set es name value) name = some value := by
  induction es with
  | nil => simp [set, get?_cons]
  | cons e rest ih =>
    obtain ⟨n, v⟩ := e
    by_cases h : n = name
    · simp [set, h, get?_cons]
    · simp [set, h, get?_cons, ih, Ne.symm h]

theorem get?_set_of_ne (es : Entries α) {name other : String} (value : α) (h : other ≠ name) :
    get? (set es name value) other = get? es other := by
  induction es with
  | nil => simp [set, get?_cons, h]
  | cons e rest ih =>
    obtain ⟨n, v⟩ := e
    by_cases hn : n = name
    · subst hn; simp [set, get?_cons, h]
    · simp [set, hn, get?_cons, ih]

end Entries

end Questionnaire
