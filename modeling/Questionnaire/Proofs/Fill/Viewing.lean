/-
What a respondent sees is what was answered.

Only a load renders a presentation, and only an answer refreshes one, while answers change in both.
Yet in every state that calls can lead to, whatever the store answers, the presentation is the one
rendered for the document and the answers of that state: `Shows` is kept by every call, as long as
a load that got a questionnaire completes.  A refresh has nothing to start from but the presentation
that the call before left, so that the invariant rests on a refresh being exact.
-/
import Questionnaire.Proofs.Fill.Calls
import Questionnaire.Proofs.Presentation.Refresh

namespace Questionnaire.FillSession

variable {σ : Type} {store : AnswerStore σ} {link : Json} {s s' : FillSession} {outside now : σ}
  {both : FillSession × σ} {call : Call} {calls : List Call}

/-- The presentation is that of the document and the answers. -/
def Shows (s : FillSession) : Prop :=
  s.presentation = s.document.map (Presentation.render · s.answers.named)

/-- If the call is a load that gets a questionnaire, the load completes. -/
def Call.Completes (store : AnswerStore σ) (link : Json) (both : FillSession × σ) (call : Call) :
    Prop :=
  call = .load → ∀ payload, ((store.fetch link).run both.2).1 = .ok payload →
    ((seed payload).run both.1).1 = .ok ()

/-- Every load among the calls that gets a questionnaire completes. -/
def Complete (store : AnswerStore σ) (link : Json) : FillSession × σ → List Call → Prop
  | _, [] => True
  | both, call :: calls =>
    call.Completes store link both ∧ Complete store link (call.after store link both) calls

/-- The call is a load that gets a questionnaire. -/
def Call.Fetches (store : AnswerStore σ) (link : Json) (both : FillSession × σ) (call : Call) :
    Prop :=
  call = .load ∧ ∃ payload, ((store.fetch link).run both.2).1 = .ok payload

/-- Some load among the calls gets a questionnaire. -/
def Fetched (store : AnswerStore σ) (link : Json) : FillSession × σ → List Call → Prop
  | _, [] => False
  | both, call :: calls =>
    call.Fetches store link both ∨ Fetched store link (call.after store link both) calls

/-! ### One call -/

theorem shows_loaded (payload : Json) (document : Document) (records versions : Entries Json)
    (s : FillSession) : (loaded payload document records versions s).Shows := by
  show some _ = some _
  rw [show (loaded payload document records versions s).answers.named =
    Answers.flatten records from Fields.named_ofEntries _]

/-- A load that completes has rendered the questionnaire. -/
theorem shows_seed {payload : Json} (h : ((seed payload).run s).1 = .ok ()) :
    ((seed payload).run s).2.Shows ∧ ((seed payload).run s).2.document.isSome = true := by
  have hseeds := seeds payload s
  generalize (seed payload).run s = reached at h hseeds
  cases hseeds with
  | noObject | noDocument | noRecords | noVersions => cases h
  | completed => exact ⟨shows_loaded payload _ _ _ s, rfl⟩

/-- An answer that is applied refreshes the presentation to what would be rendered. -/
theorem Shows.applyAnswer (h : s.Shows) {p : Presentation} (hp : s.presentation = some p)
    (id value : Json) : (s.applyAnswer p id value).Shows := by
  rw [Shows, hp] at h
  obtain ⟨d, hd, rfl⟩ := Option.map_eq_some_iff.mp h.symm
  show some _ = Option.map _ s.document
  rw [hd, Presentation.refresh_render]
  rfl

/-- A session is as much of a session as another for what is shown. -/
theorem Shows.congr (h : s.Shows) (hpresentation : s'.presentation = s.presentation)
    (hdocument : s'.document = s.document) (hanswers : s'.answers = s.answers) : s'.Shows := by
  rw [Shows, hpresentation, hdocument, hanswers]
  exact h

theorem Shows.record (h : s.Shows) (id : Json) (outcome : SaveOutcome) :
    (s.record id outcome).Shows := by
  cases outcome <;> exact h.congr rfl rfl rfl

theorem document_record (s : FillSession) (id : Json) (outcome : SaveOutcome) :
    (s.record id outcome).document = s.document := by
  cases outcome <;> rfl

/-- **What is shown stays what was answered, whatever the store makes of a call.** -/
theorem Shows.after (h : both.1.Shows) (hcompletes : call.Completes store link both) :
    (call.after store link both).1.Shows := by
  obtain ⟨s, outside⟩ := both
  have hdoes := does store link s outside call
  generalize call.after store link (s, outside) = reached at hdoes
  cases hdoes with
  | unfetched | refused | withheld | unsubmitted => exact h
  | fetched hfetch =>
      exact (shows_seed (hcompletes rfl _ (congrArg Prod.fst hfetch))).1
  | unsaved hasks _ => exact h.applyAnswer hasks.presented _ _
  | saved hasks _ => exact (h.applyAnswer hasks.presented _ _).record _ _
  | submitted => exact h.congr rfl rfl rfl

/-- Once there is a document there is one at any time, and a load that completes makes one. -/
theorem document_after (hcompletes : call.Completes store link both)
    (h : both.1.document.isSome = true ∨ call.Fetches store link both) :
    (call.after store link both).1.document.isSome = true := by
  obtain ⟨s, outside⟩ := both
  have hdoes := does store link s outside call
  generalize call.after store link (s, outside) = reached at hdoes
  cases hdoes with
  | unfetched hfetch =>
      refine h.resolve_right ?_
      rintro ⟨-, payload, hpayload⟩
      rw [hfetch] at hpayload
      cases hpayload
  | fetched hfetch =>
      exact (shows_seed (hcompletes rfl _ (congrArg Prod.fst hfetch))).2
  | saved hasks _ =>
      rw [document_record]
      exact h.resolve_right fun hload => nomatch hload.1
  | refused | unsaved | withheld | unsubmitted | submitted =>
      exact h.resolve_right fun hload => nomatch hload.1

/-! ### A run -/

theorem Shows.run (h : both.1.Shows) (hcomplete : Complete store link both calls) :
    (run store link calls both).1.Shows := by
  induction calls generalizing both with
  | nil => exact h
  | cons call calls ih => exact ih (h.after hcomplete.1) hcomplete.2

theorem document_run (hcomplete : Complete store link both calls)
    (h : both.1.document.isSome = true ∨ Fetched store link both calls) :
    (run store link calls both).1.document.isSome = true := by
  induction calls generalizing both with
  | nil => exact h.resolve_right id
  | cons call calls ih =>
      refine ih hcomplete.2 ?_
      rcases h with hdocument | hfetches | hfetched
      · exact Or.inl (document_after hcomplete.1 (Or.inl hdocument))
      · exact Or.inl (document_after hcomplete.1 (Or.inr hfetches))
      · exact Or.inr hfetched

/-- What the session tells of itself, given what it shows. -/
structure Tells (s : FillSession) (p : Presentation) : Prop where
  presentation : s.presentation = some p
  progress : s.progress = .ok (p.progress s.answers.named)
  toJson : ∀ conflicts, s.conflictedIds = .ok conflicts → s.toJson = .ok (.obj [
    ("instance_id", s.instanceId), ("name", s.name), ("is_locked", .bool s.isLocked),
    ("conflicts", .arr conflicts), ("errors", .obj s.errors.inWords),
    ("progress", (p.progress s.answers.named).toJson),
    ("presentation", p.toJson s.answers.named)])

theorem tells {p : Presentation} (h : s.presentation = some p) : s.Tells p where
  presentation := h
  progress := by
    rw [FillSession.progress, presented, h]
    rfl
  toJson := by
    intro conflicts hconflicts
    rw [FillSession.toJson, hconflicts, presented, h]
    rfl

/-- **After the first load a session shows its own answers,** whatever the store answered to any
call: the presentation is the one that would be rendered for the document and the answers, and it is
what the session tells of itself with the progress of these answers. -/
theorem shows_answers (store : AnswerStore σ) (link : Json) (calls : List Call) (outside : σ)
    (hcomplete : Complete store link ({}, outside) calls)
    (hfetched : Fetched store link ({}, outside) calls) :
    let s := (run store link calls ({}, outside)).1
    ∃ d, s.document = some d ∧ s.Tells (Presentation.render d s.answers.named) := by
  intro s
  have hfresh : ({} : FillSession).Shows := rfl
  have hshows : s.Shows := hfresh.run hcomplete
  obtain ⟨d, hd⟩ := Option.isSome_iff_exists.mp
    (document_run hcomplete (Or.inr hfetched))
  refine ⟨d, hd, tells ?_⟩
  rw [hshows, hd]
  rfl

/-- A question with two branches is answered.  The save meets a newer version, so that the second
answer is refused, and so is submitting; the first answer is still the one that is shown. -/
theorem shows_answers_conflicting :
    let question : Json := .obj [("type", .str "yesno"), ("id", .str "q"),
      ("yes", .arr [.obj [("type", .str "info")]]), ("no", .arr [.obj [("type", .str "spacer")]])]
    let store : AnswerStore Unit := {
      fetch := fun _ => pure (.obj [("template_content", .obj [("items", .arr [question])])])
      save := fun _ _ _ _ => pure (.conflict ⟨.int 3, .null⟩)
      submit := fun _ => pure () }
    let calls : List Call :=
      [.load, .answer (.str "q") (.str "yes"), .answer (.str "q") (.str "no"), .submit]
    let s := (run store (.str "k") calls ({}, ())).1
    (∃ d, s.document = some d ∧ s.Tells (Presentation.render d s.answers.named)) ∧
      s.isLocked = false ∧ s.conflicts.ids = [.str "q"] ∧
        s.answers.named = [("q", .str "yes")] := by
  refine ⟨shows_answers _ (.str "k") _ () ⟨?_, ?_⟩ (Or.inl ⟨rfl, _, rfl⟩), rfl, rfl, rfl⟩
  · intro _ payload h
    obtain rfl := Except.ok.inj h
    rfl
  · refine ⟨?_, ?_, ?_, trivial⟩ <;> exact fun h => nomatch h

end Questionnaire.FillSession
