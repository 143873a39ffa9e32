/-
What keeps a document from being saved.

Every id of an item and every option id of a checkbox group is the key of an answer:
it may stand only once and has letters, digits, underscore and hyphen only.
Questions need an id, groups need an option, and every item needs a type.  Hints and
radio questions may go without an id.
-/
import Questionnaire.Document.Basic

namespace Questionnaire

/-- A finding about the item with a handle. -/
inductive Issue
  /-- An id that an earlier item has, told where it comes for the second time. -/
  | duplicateId (id : String) (handle : Nat)
  | invalidId (id : String) (handle : Nat)
  | missingId (type : String) (handle : Nat)
  | missingChoices (type id : String) (handle : Nat)
  | missingType (handle : Nat)
  deriving DecidableEq, Repr

namespace Issue

def code : Issue → String
  | .duplicateId .. => "DUPLICATE_ID"
  | .invalidId .. => "INVALID_ID_FORMAT"
  | .missingId .. => "MISSING_ID"
  | .missingChoices .. => "MISSING_CHOICES"
  | .missingType _ => "MISSING_TYPE"

def message : Issue → String
  | .duplicateId id _ => s!"Duplicate ID: {id}"
  | .invalidId id _ =>
    s!"Invalid ID \"{id}\": only letters, numbers, underscore and hyphen allowed"
  | .missingId type handle => s!"{type} item #{handle}: ID is required"
  | .missingChoices type _ handle => s!"{type} item #{handle}: at least one choice required"
  | .missingType handle => s!"Item #{handle}: missing type"

/-- The id that an issue is about. -/
def itemId? : Issue → Option String
  | .duplicateId id _ | .invalidId id _ => some id
  | .missingChoices _ id _ => if id = "" then none else some id
  | .missingId .. | .missingType _ => none

def handle : Issue → Nat
  | .duplicateId _ h | .invalidId _ h | .missingId _ h | .missingChoices _ _ h
  | .missingType h => h

def toJson (i : Issue) : Json :=
  .obj [("code", .str i.code), ("message", .str i.message), ("item_id", .ofText? i.itemId?),
    ("handle", .int i.handle)]

end Issue

namespace Validation

/-- A character that an id may have. -/
def isIdChar (c : Char) : Bool :=
  ('A' ≤ c && c ≤ 'Z') || ('a' ≤ c && c ≤ 'z') || ('0' ≤ c && c ≤ '9') || c = '_' || c = '-'

/-- An id is one or more such characters; a line feed may follow them. -/
def isId (id : String) : Bool :=
  let cs := match id.toList.reverse with
    | '\n' :: cs => cs
    | cs => cs
  !cs.isEmpty && cs.all isIdChar

/-- The ids that were met, and those of them that were reported as met again. -/
structure Seen where
  ids : List String := []
  reported : List String := []

/-- Takes note of an id. -/
def claim (id : String) (handle : Nat) (seen : Seen) : List Issue × Seen :=
  if seen.ids.contains id then
    if seen.reported.contains id then ([], seen)
    else ([.duplicateId id handle], { seen with reported := id :: seen.reported })
  else ([], { seen with ids := id :: seen.ids })

def checkFormat (id : String) (handle : Nat) : List Issue :=
  if isId id then [] else [.invalidId id handle]

/-- Takes note of an item's own id and checks its form. -/
def checkId (id : String) (handle : Nat) (seen : Seen) : List Issue × Seen :=
  if id = "" then ([], seen)
  else
    let (issues, seen) := claim id handle seen
    (issues ++ checkFormat id handle, seen)

/-- Takes note of an option id and checks its form, also where it is empty. -/
def checkChoice (id : String) (handle : Nat) (seen : Seen) : List Issue × Seen :=
  let (issues, seen) := if id = "" then ([], seen) else claim id handle seen
  (issues ++ checkFormat id handle, seen)

def checkChoices (handle : Nat) (seen : Seen) : List GroupChoice → List Issue × Seen
  | [] => ([], seen)
  | c :: cs =>
    let (issues, seen) := checkChoice c.id handle seen
    let (more, seen) := checkChoices handle seen cs
    (issues ++ more, seen)

/-- What an item of this type needs and lacks. -/
def lacks (item : Item) (handle : Nat) : List Issue :=
  let noId (q : Question) : List Issue :=
    if q.id = "" then [.missingId item.type handle] else []
  match item with
  | .line q _ | .box q _ | .check q | .yesNo q _ _ => noId q
  | .radioGroup q group | .checkGroup q group =>
    noId q ++ if group.choices.isEmpty then [.missingChoices item.type q.id handle] else []
  | .unknown type _ => if type = "" then [.missingType handle] else []
  | _ => []

/-- The options whose ids are keys of answers. -/
def keyChoices : Item → List GroupChoice
  | .checkGroup _ group => group.choices
  | _ => []

/-- The findings about one item.  An unknown item may carry an id that is no text,
which cannot be checked. -/
def checkItem (item : Item) (handle : Nat) (seen : Seen) : Except Misfit (List Issue × Seen) :=
  let id := item.id
  match if id.truthy then id.str? else some "" with
  | none => .error .kind
  | some id =>
    let (own, seen) := checkId id handle seen
    let (choices, seen) := checkChoices handle seen (keyChoices item)
    .ok (own ++ lacks item handle ++ choices, seen)

def checkNodes (seen : Seen) : List Document.Node → Except Misfit (List Issue)
  | [] => .ok []
  | n :: ns => do
    let (issues, seen) ← checkItem n.item n.handle seen
    let more ← checkNodes seen ns
    return issues ++ more

end Validation

/-- Every finding about a document, in reading order. -/
def Document.issues (d : Document) : Except Misfit (List Issue) :=
  Validation.checkNodes {} d.outline

end Questionnaire
