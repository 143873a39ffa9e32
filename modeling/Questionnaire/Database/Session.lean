/-
A session with the database.

Changes are made on a working copy of the tables, which a commit makes lasting and a
rollback forgets.  What a step changed before it failed stays in the working copy, so that a
later commit in the same session would keep it; whoever serves a request rolls back
at its end.

Other sessions commit between the statements of this one.  Such a commit is a change of
both copies.
-/
import Questionnaire.Attempt
import Questionnaire.Database.Tables

namespace Questionnaire

/-- A session with the database. -/
structure Database where
  /-- What lasts. -/
  committed : Tables := {}
  /-- What this session sees. -/
  working : Tables := {}
  deriving DecidableEq

namespace Database

def commit (d : Database) : Database := { d with committed := d.working }

def rollback (d : Database) : Database := { d with working := d.committed }

/-- A change in this session. -/
def change (d : Database) (f : Tables → Tables) : Database := { d with working := f d.working }

/-- A change that another session commits. -/
def interleave (d : Database) (f : Tables → Tables) : Database := ⟨f d.committed, f d.working⟩

@[simp] theorem working_rollback (d : Database) : d.rollback.working = d.committed := rfl

@[simp] theorem committed_rollback (d : Database) : d.rollback.committed = d.committed := rfl

@[simp] theorem committed_change (d : Database) (f : Tables → Tables) :
    (d.change f).committed = d.committed := rfl

@[simp] theorem rollback_change (d : Database) (f : Tables → Tables) :
    (d.change f).rollback = d.rollback := rfl

end Database

end Questionnaire
