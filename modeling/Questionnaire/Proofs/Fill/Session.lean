/-
What loading and answering do to a session.

Answering reaches the store only where the session lets the answer through, which is
`Asks`; everything else leaves the session and the store as they are.  The versions
of a session change in two places only: a load that completes replaces all of them,
and an answer that is accepted sets the one of its field.
-/
import Questionnaire.Proofs.Attempt
import Questionnaire.Fill.Session

namespace Questionnaire

namespace Fields

variable {α : Type}

theorem get?_ofEntries (es : Entries α) (name : String) :
    get? (ofEntries es) (.str name) = Entries.get? es name := by
  rw [get?_str, named_ofEntries]

theorem get?_set_str (fs : Fields α) (name other : String) (value : α) :
    get? (set fs (.str name) value) (.str other) =
      if other = name then some value else get? fs (.str other) := by
  rw [get?_str, get?_str, named_set_str]
  by_cases h : other = name
  · rw [h, if_pos rfl, Entries.get?_set_self]
  · rw [if_neg h, Entries.get?_set_of_ne _ value h]

end Fields

namespace FillSession

variable {σ : Type} {store : AnswerStore σ} {link id value payload : Json} {s : FillSession}
  {p : Presentation}

/-! ### Answering -/

/-- The session sends an answer to the store. -/
structure Asks (s : FillSession) (id : Json) (p : Presentation) : Prop where
  presented : s.presentation = some p
  named : id.truthy = true
  isName : Fields.isName id = true
  opened : s.isLocked = false
  unblocked : s.conflicts.has id = false

/-- An answer that is sent is applied first, and then what became of it is recorded. -/
theorem run_setAnswer_of_asks (h : s.Asks id p) (outside : σ) :
    (setAnswer store link id value).run (s, outside) =
      match (store.save link id value (s.version id)).run outside with
      | (.ok outcome, outside) =>
        (.ok outcome, ((s.applyAnswer p id value).record id outcome, outside))
      | (.error failure, outside) => (.error failure, (s.applyAnswer p id value, outside)) := by
  simp only [setAnswer, Attempt.run_bind, Attempt.run_get, Attempt.andThen_ok, h.presented,
    h.named, h.isName, h.opened, h.unblocked, Bool.not_true, Bool.false_eq_true, if_false,
    Attempt.run_onFirst, Attempt.run_set, Attempt.run_onSecond]
  cases hsave : (store.save link id value (s.version id)).run outside with
  | mk outcome after =>
      cases outcome with
      | error failure => rfl
      | ok outcome => rfl

/-- Answering ends with this outcome whatever the store, and nothing changes. -/
def Refuses (σ : Type) (s : FillSession) (id : Json) (outcome : Except Failure SaveOutcome) :
    Prop :=
  (∀ version updatedAt, outcome ≠ .ok (.accepted version updatedAt)) ∧
    ∀ (store : AnswerStore σ) (link value : Json) (outside : σ),
      (setAnswer store link id value).run (s, outside) = (outcome, (s, outside))

/-- An answer is sent or refused. -/
theorem asks_or_refuses (σ : Type) (s : FillSession) (id : Json) :
    (∃ p, s.Asks id p) ∨ ∃ outcome, Refuses σ s id outcome := by
  simp only [Refuses, setAnswer, Attempt.run_bind, Attempt.run_get, Attempt.andThen_ok]
  cases hpresented : s.presentation with
  | none => exact Or.inr ⟨.error .notLoaded, by simp, fun _ _ _ _ => rfl⟩
  | some p =>
  cases hnamed : id.truthy with
  | false => exact Or.inr ⟨.error (.refused .questionIdRequired), by simp, fun _ _ _ _ => rfl⟩
  | true =>
  cases hname : Fields.isName id with
  | false => exact Or.inr ⟨.error (.misfit .kind), by simp, fun _ _ _ _ => rfl⟩
  | true =>
  cases hopened : s.isLocked with
  | true => exact Or.inr ⟨.ok (.rejected .locked (.str "Questionnaire is locked")), by simp,
      fun _ _ _ _ => rfl⟩
  | false =>
  cases hunblocked : s.conflicts.has id with
  | true => exact Or.inr ⟨.ok (.rejected .conflicted (.str "Reload to resolve the conflict first")),
      by simp, fun _ _ _ _ => rfl⟩
  | false => exact Or.inl ⟨p, hpresented, hnamed, hname, hopened, hunblocked⟩

/-- A session can take an answer: it is loaded and the question goes by a name. -/
structure Takes (s : FillSession) (id : Json) : Prop where
  loaded : s.presentation.isSome = true
  named : id.truthy = true
  isName : Fields.isName id = true

theorem Asks.takes {p : Presentation} (h : s.Asks id p) : s.Takes id :=
  ⟨by rw [h.presented]; rfl, h.named, h.isName⟩

theorem raises_of_not_takes (h : ¬ s.Takes id) (store : AnswerStore σ) (link value : Json)
    (outside : σ) :
    ∃ failure, (setAnswer store link id value).run (s, outside) =
      (.error failure, (s, outside)) := by
  simp only [setAnswer, Attempt.run_bind, Attempt.run_get, Attempt.andThen_ok]
  cases hpresented : s.presentation with
  | none => exact ⟨.notLoaded, rfl⟩
  | some p =>
  cases hnamed : id.truthy with
  | false => exact ⟨.refused .questionIdRequired, rfl⟩
  | true =>
  cases hname : Fields.isName id with
  | false => exact ⟨.misfit .kind, rfl⟩
  | true => exact absurd ⟨by rw [hpresented]; rfl, hnamed, hname⟩ h

/-- An answer that is taken and not sent is refused, which is an outcome. -/
theorem Takes.rejects (h : s.Takes id) (hasks : ¬ ∃ p, s.Asks id p) (store : AnswerStore σ)
    (link value : Json) (outside : σ) :
    ∃ reason message, (setAnswer store link id value).run (s, outside) =
      (.ok (.rejected reason message), (s, outside)) := by
  obtain ⟨p, hpresented⟩ := Option.isSome_iff_exists.mp h.loaded
  simp only [setAnswer, Attempt.run_bind, Attempt.run_get, Attempt.andThen_ok, hpresented,
    h.named, h.isName]
  cases hopened : s.isLocked with
  | true => exact ⟨_, _, rfl⟩
  | false =>
  cases hunblocked : s.conflicts.has id with
  | true => exact ⟨_, _, rfl⟩
  | false => exact absurd ⟨p, hpresented, h.named, h.isName, hopened, hunblocked⟩ hasks

/-- The version that the next save names, after a save of some field. -/
theorem version_record (s : FillSession) (q r : String) (outcome : SaveOutcome) :
    (s.record (.str q) outcome).version (.str r) =
      match outcome with
      | .accepted version _ => if r = q then version else s.version (.str r)
      | _ => s.version (.str r) := by
  cases outcome with
  | accepted version updatedAt =>
      show ((s.versions.set (.str q) version).get? (.str r)).getD (.int 0) = _
      rw [Fields.get?_set_str]
      by_cases h : r = q
      · simp [h]
      · simp only [if_neg h]
        rfl
  | conflict c => rfl
  | rejected reason message => rfl
  | failed error => rfl

/-! ### Loading -/

/-- The session after a load. -/
def loaded (payload : Json) (document : Document) (records versions : Entries Json)
    (s : FillSession) : FillSession :=
  { describe payload s with
    document := some document
    answers := .ofEntries (Answers.flatten records)
    versions := .ofEntries versions
    conflicts := []
    errors := []
    presentation := some (Presentation.render document (Answers.flatten records)) }

/-- How the load of a fetched value ends: part after part is taken over, up to the first that
cannot be read. -/
inductive Seeds (payload : Json) (s : FillSession) : Except Failure Unit × FillSession → Prop
  | noObject (hobject : payload.isObject = false) : Seeds payload s (.error (.misfit .part), s)
  | noDocument {failure : Failure} (hobject : payload.isObject = true)
      (hdocument : Document.load ((payload.getD "template_content").orElse (.str "")) =
        .error failure) : Seeds payload s (.error failure, describe payload s)
  | noRecords {document : Document} {failure : Failure} (hobject : payload.isObject = true)
      (hdocument : Document.load ((payload.getD "template_content").orElse (.str "")) =
        .ok document) (hrecords : recordsOf payload = .error failure) :
      Seeds payload s (.error failure, { describe payload s with document := some document })
  | noVersions {document : Document} {records : Entries Json} {misfit : Misfit}
      (hobject : payload.isObject = true)
      (hdocument : Document.load ((payload.getD "template_content").orElse (.str "")) =
        .ok document) (hrecords : recordsOf payload = .ok records)
      (hversions : versionsOf records = .error misfit) :
      Seeds payload s (.error (.misfit misfit), { describe payload s with
        document := some document
        answers := .ofEntries (Answers.flatten records) })
  | completed {document : Document} {records versions : Entries Json}
      (hobject : payload.isObject = true)
      (hdocument : Document.load ((payload.getD "template_content").orElse (.str "")) =
        .ok document) (hrecords : recordsOf payload = .ok records)
      (hversions : versionsOf records = .ok versions) :
      Seeds payload s (.ok ⟨⟩, loaded payload document records versions s)

theorem Seeds.run {reached : Except Failure Unit × FillSession} (h : Seeds payload s reached) :
    (seed payload).run s = reached := by
  cases h <;> simp only [seed, *, Bool.not_false, Bool.not_true, Bool.false_eq_true, if_true,
    if_false, Attempt.run_bind, Attempt.run_modify, Attempt.andThen_ok, Attempt.run_lift,
    Attempt.run_fit] <;> rfl

theorem seeds (payload : Json) (s : FillSession) : Seeds payload s ((seed payload).run s) := by
  have hends : ∃ reached, Seeds payload s reached := by
    cases hobject : payload.isObject with
    | false => exact ⟨_, .noObject hobject⟩
    | true =>
    cases hdocument : Document.load ((payload.getD "template_content").orElse (.str "")) with
    | error failure => exact ⟨_, .noDocument hobject hdocument⟩
    | ok document =>
    cases hrecords : recordsOf payload with
    | error failure => exact ⟨_, .noRecords hobject hdocument hrecords⟩
    | ok records =>
    cases hversions : versionsOf records with
    | error misfit => exact ⟨_, .noVersions hobject hdocument hrecords hversions⟩
    | ok versions => exact ⟨_, .completed hobject hdocument hrecords hversions⟩
  obtain ⟨reached, hreached⟩ := hends
  rw [hreached.run]
  exact hreached

theorem run_load (store : AnswerStore σ) (link : Json) (s : FillSession) (outside : σ) :
    (load store link).run (s, outside) =
      match (store.fetch link).run outside with
      | (.ok payload, outside) =>
        (((seed payload).run s).1, (((seed payload).run s).2, outside))
      | (.error failure, outside) => (.error failure, (s, outside)) := by
  simp only [load, Attempt.run_bind, Attempt.run_onSecond]
  cases (store.fetch link).run outside with
  | mk outcome after => cases outcome <;> rfl

/-! ### Submitting -/

/-- Submitting keeps the versions, and asks the store for nothing but to submit. -/
theorem submit_keeps (store : AnswerStore σ) (link : Json) (s : FillSession) (outside : σ) :
    ∃ outcome after outside', (submit store link).run (s, outside) = (outcome, (after, outside')) ∧
      after.versions = s.versions ∧
      (outside' = outside ∨ outside' = ((store.submit link).run outside).2) := by
  simp only [submit, Attempt.run_bind, Attempt.run_get, Attempt.andThen_ok]
  cases s.conflicts.isEmpty with
  | true =>
      simp only [if_true, Attempt.run_bind, Attempt.run_onSecond]
      cases (store.submit link).run outside with
      | mk outcome outside' =>
          cases outcome with
          | error failure => exact ⟨_, _, _, rfl, rfl, Or.inr rfl⟩
          | ok done => exact ⟨_, _, _, rfl, rfl, Or.inr rfl⟩
  | false =>
      simp only [Bool.false_eq_true, if_false, Attempt.run_bind, Attempt.run_fit]
      cases s.conflictedIds with
      | error misfit => exact ⟨_, _, _, rfl, rfl, Or.inl rfl⟩
      | ok ids => exact ⟨_, _, _, rfl, rfl, Or.inl rfl⟩

end FillSession

end Questionnaire
