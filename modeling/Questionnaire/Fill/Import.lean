/-
Importing many answers.

The answers are given one after the other in a session of their own, in the order in
which they come, so that an answer opens its branch before the answers in the branch
arrive.  An answer that the store holds already is left alone.
-/
import Questionnaire.Fill.Session
import Questionnaire.Json.Equal

namespace Questionnaire

/-- What became of the imported answers. -/
structure ImportReport where
  instanceId : Json
  accepted : List String
  /-- The questions whose answer was stored already. -/
  unchanged : List String
  conflicts : List Json
  /-- Why answers were refused or failed. -/
  errors : Entries Json
  progress : Progress
  submitted : Bool

namespace ImportReport

def toJson (r : ImportReport) : Json :=
  .obj [("instance_id", r.instanceId), ("accepted", .arr (r.accepted.map Json.str)),
    ("unchanged", .arr (r.unchanged.map Json.str)),
    ("conflicts", .arr r.conflicts), ("errors", .obj r.errors),
    ("progress", r.progress.toJson), ("submitted", .bool r.submitted)]

end ImportReport

namespace FillSession

variable {σ : Type}

/-- The questions whose answers were accepted, and those that had their answer. -/
structure Tally where
  accepted : List String := []
  unchanged : List String := []

/-- Whether the session has this very answer. -/
def hasAnswer (s : FillSession) (id : String) (value : Json) : Bool :=
  Json.sameAs (s.answers.get? (.str id)) value

/-- Gives answers one after the other. -/
def setAll (store : AnswerStore σ) (link : Json) :
    Entries Json → Attempt (FillSession × σ) Tally
  | [] => return {}
  | (id, value) :: rest => do
    let (s, _) ← get
    if s.hasAnswer id value then
      let tally ← setAll store link rest
      return { tally with unchanged := id :: tally.unchanged }
    else
      let outcome ← setAnswer store link (.str id) value
      let tally ← setAll store link rest
      return if outcome.isAccepted then { tally with accepted := id :: tally.accepted } else tally

/-- Submits if that is wanted and possible. -/
def submitIf (wanted : Bool) (store : AnswerStore σ) (link : Json) :
    Attempt (FillSession × σ) Bool := do
  let (s, _) ← get
  if wanted && s.canSubmit then
    submit store link
    return true
  else return false

/-- Loads the questionnaire, gives the answers and reports what became of them. -/
def replay (store : AnswerStore σ) (link : Json) (answers : Entries Json) (submit : Bool) :
    Attempt (FillSession × σ) ImportReport := do
  load store link
  let tally ← setAll store link answers
  let submitted ← submitIf submit store link
  let (s, _) ← get
  let conflicts ← Attempt.fit s.conflictedIds
  let progress ← Attempt.lift s.progress
  return {
    instanceId := s.instanceId
    accepted := tally.accepted
    unchanged := tally.unchanged
    conflicts
    errors := s.errors.inWords
    progress
    submitted }

end FillSession

/-- Saves every answer in a session of its own and reports what happened.  With
`submit` the questionnaire is submitted afterwards, unless it is locked or a field is
blocked. -/
def importAnswers {σ : Type} (store : AnswerStore σ) (link : Json) (answers : Json)
    (submit : Bool) : Attempt σ ImportReport := fun outside =>
  match answers with
  | .obj members =>
    let (r, _, outside) := (FillSession.replay store link members submit).run ({}, outside)
    (r, outside)
  | _ => (.error (.refused .answersKind), outside)

end Questionnaire
