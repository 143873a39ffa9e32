/-
The service.

The service keeps questionnaires for authors and answers for respondents.  Its state is
a session with the database and what it takes from outside: the time, the links
that are drawn one after the other, and the address that links are handed out under.
-/
import Questionnaire.Database.Session
import Questionnaire.Database.Key

namespace Questionnaire

/-- The state of the service. -/
structure Service where
  database : Database := {}
  now : Moment := ⟨0⟩
  /-- The links that are drawn, by number. -/
  links : Nat → String
  /-- How many links were drawn. -/
  drawn : Nat := 0
  /-- The address under which respondents find their questionnaires; none if what was set for
  it is no text. -/
  fillBase : Option String := some "/fill"

namespace Service

/-- The tables as this session sees them. -/
def tables (s : Service) : Tables := s.database.working

/-! ### Steps -/

def commit : Attempt Service Unit := modify fun s => { s with database := s.database.commit }

def rollback : Attempt Service Unit := modify fun s => { s with database := s.database.rollback }

/-- Changes the tables. -/
def change (f : Tables → Tables) : Attempt Service Unit :=
  modify fun s => { s with database := s.database.change f }

/-- Another session's commit. -/
def interleave (f : Tables → Tables) : Attempt Service Unit :=
  modify fun s => { s with database := s.database.interleave f }

/-- Reads the tables. -/
def read {α : Type} (f : Tables → α) : Attempt Service α := do return f (← get).tables

/-- Adds a row and commits.  A row that the tables do not admit ends the transaction. -/
def addAndCommit {α : Type} (f : Tables → Except Failure (α × Tables)) : Attempt Service α := do
  match f (← get).tables with
  | .ok (row, tables) =>
    change fun _ => tables
    commit
    return row
  | .error failure =>
    rollback
    throw failure

/-- The time. -/
def time : Attempt Service Moment := do return (← get).now

/-- Draws a link. -/
def drawLink : Attempt Service String := do
  let s ← get
  set { s with drawn := s.drawn + 1 }
  return s.links s.drawn

/-- A step that serves one request: what it did not commit is forgotten. -/
def request {α : Type} (a : Attempt Service α) : Attempt Service α := fun s =>
  let (r, s) := a.run s
  (r, { s with database := s.database.rollback })

/-- Adds a row that belongs to an author and commits. -/
def addForAndCommit {α : Type} (admin : Json)
    (f : Int → Tables → Except Failure (α × Tables)) : Attempt Service α := do
  match ← Attempt.lift (Database.id? admin) with
  | some admin => addAndCommit (f admin)
  | none =>
    rollback
    throw .constraint

/-- The instance under a link. -/
def instanceUnder (link : Json) : Attempt Service (Option Instance) := do
  match ← Attempt.lift (Database.column link) with
  | some link => read (·.instanceAt? link)
  | none => return none

@[simp] theorem instanceUnder_str (link : String) :
    instanceUnder (.str link) = read (·.instanceAt? link) := rfl

/-- The address of the questionnaire under a link. -/
def fillUrl (s : Service) (link : String) : Except Failure String :=
  match s.fillBase with
  | some base => .ok (Text.dropTrailing '/' base ++ "/" ++ link)
  | none => .error (.misfit .part)

end Service

end Questionnaire
