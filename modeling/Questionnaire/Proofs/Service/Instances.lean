/-
What the operations on instances do.

An instance is found by its link or by its id, and then locked, unlocked or taken away.  Each of
these operations ends as it began, ends with what was pending forgotten, or commits one change
of what the session sees.  `run_submit`, `run_unlock` and `run_deleteInstance` say which end it
is; sending a template is told by `leads_createInstance`, since drawing links goes on in the
background.
-/
import Questionnaire.Proofs.Database.Version
import Questionnaire.Proofs.Service.Steps
import Questionnaire.Service.Instance

namespace Questionnaire

namespace Tables

/-- The instance that a value names, as a request finds it. -/
def named (t : Tables) (id : Json) : Except Failure (Option Instance) :=
  match Database.single id with
  | .ok key => (Database.id? key).map (·.bind t.instance?)
  | .error failure => .error failure

/-- The instance that a value names, or the failure that there is none. -/
def found (t : Tables) (id : Json) : Except Failure Instance :=
  match t.named id with
  | .ok (some row) => .ok row
  | .ok none => .error (.notFound "Instance" id)
  | .error failure => .error failure

theorem found_eq_ok {t : Tables} {id : Json} {row : Instance} :
    t.found id = .ok row ↔ t.named id = .ok (some row) := by
  unfold found
  split <;> simp_all

/-- What a respondent is handed for an instance of a template. -/
def handout (t : Tables) (row : Instance) (source : Template) : Json :=
  .obj [("instance_id", .int row.id), ("questionnaire_name", .str source.name),
    ("questionnaire_description", .str (source.description.getD "")),
    ("template_content", .str source.content), ("is_locked", .bool row.isLocked),
    ("submitted_at", Moment.toJson? row.submittedAt), ("answers", .obj (t.records row.id)),
    ("version", .int row.version)]

/-- What a respondent is handed under a link, or why not. -/
def handed (t : Tables) (link : Json) : Except Failure Json :=
  match t.under link with
  | .error failure => .error failure
  | .ok none => .error (.notFound "Questionnaire" .null)
  | .ok (some row) =>
    match t.template? row.templateId with
    | none => .error (.misfit .part)
    | some source => (Database.checked row.id).map fun _ => t.handout row source

/-- An instance that was submitted at a moment. -/
def submittedAs (now : Moment) (row : Instance) : Instance :=
  { row with isLocked := true, submittedAt := some now }

/-- An instance that takes answers again. -/
def reopened (row : Instance) : Instance := { row with isLocked := false, submittedAt := none }

end Tables

namespace Service

open Attempt (Keeps Leads)

variable {s : Service}

@[simp] theorem run_findInstance (id : Json) (s : Service) :
    (findInstance id).run s = (s.tables.found id, s) := by
  simp only [findInstance, Attempt.run_bind, Attempt.run_lift, Tables.found, Tables.named]
  cases Database.single id with
  | error failure => rfl
  | ok key =>
  simp only [Attempt.andThen_ok, Attempt.run_bind, Attempt.run_lift]
  cases Database.id? key with
  | error failure => rfl
  | ok i =>
  simp only [Attempt.andThen_ok, Attempt.run_bind, Attempt.run_get, Except.map]
  cases i.bind s.tables.instance? <;> rfl

/-- Handing out changes nothing. -/
@[simp] theorem run_respondent (link : Json) (s : Service) :
    (respondent link).run s = (s.tables.handed link, s) := by
  simp only [respondent, Attempt.run_bind, run_instanceUnder, Tables.handed]
  cases s.tables.under link with
  | error failure => rfl
  | ok found =>
  cases found with
  | none => rfl
  | some row =>
  simp only [Attempt.andThen_ok, contentOf, Attempt.run_bind, run_read]
  cases s.tables.template? row.templateId with
  | none => rfl
  | some source =>
  simp only [Attempt.run_pure, Attempt.andThen_ok, loadAnswers, Attempt.run_bind, Attempt.run_lift,
    Database.id?_int]
  cases hid : Database.checked row.id with
  | error failure => rfl
  | ok i =>
  obtain ⟨-, rfl⟩ := Database.checked_eq_ok.mp hid
  rfl

/-- Submitting is possible just while the instance is open. -/
theorem isValid_submit (row : Instance) :
    (row.transition Instance.Action.submit.name).isValid = !row.isLocked := by
  cases hlocked : row.isLocked <;>
    simp [Instance.transition, Instance.Action.name, Instance.Action.ofName?,
      Instance.Action.startsFrom, Instance.status, hlocked, Transition.isValid]

theorem run_submit (link : Json) (s : Service) :
    (submit link).run s =
      match s.tables.under link with
      | .error failure => (.error failure, s)
      | .ok none =>
        (.error (.notFound "Questionnaire" .null), { s with database := s.database.rollback })
      | .ok (some row) =>
        if row.isLocked then
          (.error (.alreadySubmitted "Already submitted"),
            { s with database := s.database.rollback })
        else
          let t := s.tables.modifyInstance row.id (Tables.submittedAs s.now)
          (t.found (.int row.id), s.withTables t) := by
  simp only [submit, Attempt.run_bind, run_instanceUnder]
  cases s.tables.under link with
  | error failure => rfl
  | ok found =>
  cases found with
  | none => rfl
  | some row =>
  simp only [Attempt.andThen_ok, isValid_submit, Bool.not_not]
  by_cases hlocked : row.isLocked = true
  · rw [if_pos hlocked, if_pos hlocked]
    rfl
  · rw [if_neg hlocked, if_neg hlocked]
    simp only [Attempt.run_bind, run_time, run_change, run_commit, Attempt.andThen_ok,
      run_findInstance]
    rfl

theorem run_unlock (id : Json) (s : Service) :
    (unlock id).run s =
      match s.tables.found id with
      | .error failure => (.error failure, s)
      | .ok row =>
        let t := s.tables.modifyInstance row.id Tables.reopened
        (t.found id, s.withTables t) := by
  simp only [unlock, Attempt.run_bind, run_findInstance]
  cases s.tables.found id with
  | error failure => rfl
  | ok row =>
      simp only [Attempt.andThen_ok, Attempt.run_bind, run_change, run_commit, run_findInstance]
      rfl

theorem run_deleteInstance (id : Json) (s : Service) :
    (deleteInstance id).run s =
      match s.tables.found id with
      | .error failure => (.error failure, s)
      | .ok row =>
        if row.isLocked || row.submittedAt.isSome then (.error .submittedKept, s)
        else (.ok ⟨⟩, s.withTables (s.tables.dropInstance row.id)) := by
  simp only [deleteInstance, Attempt.run_bind, run_findInstance]
  cases s.tables.found id with
  | error failure => rfl
  | ok row =>
      simp only [Attempt.andThen_ok]
      by_cases hkept : (row.isLocked || row.submittedAt.isSome) = true
      · rw [if_pos hkept, if_pos hkept]
        rfl
      · rw [if_neg hkept, if_neg hkept]
        rfl

end Service

end Questionnaire
