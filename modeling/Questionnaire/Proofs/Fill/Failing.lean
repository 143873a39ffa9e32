/-
What a load that fails leaves behind.

A load asks the store and then replaces the parts of a session one after the other.  What the
respondent sees, the versions, the blocked fields and the notes on saves come last and are replaced
together, so that a load that fails keeps all four, `Stays`.  What describes the questionnaire comes
first, then the document and then the answers: of these a load that fails has taken over whatever it
could read, `halfway`.  So it leaves the session as it was just if that repeats what was there.  In
particular a field stays blocked, and submitting with it, through any calls whose loads fail; but a
lock does not, and answers may come to stand beside versions of others.
-/
import Questionnaire.Proofs.Fill.Calls

namespace Questionnaire

/-- A field that is there is there after another is set. -/
theorem Fields.has_set_of_has {α : Type} {fs : Fields α} {other : Json}
    (h : fs.has other = true) (id : Json) (value : α) : (fs.set id value).has other = true := by
  induction fs with
  | nil => cases h
  | cons f fs ih =>
      obtain ⟨name, v⟩ := f
      rw [has, get?] at h
      rw [set]
      by_cases hsame : name.samePart id = true
      · rw [if_pos hsame, has, get?]
        split
        · rfl
        · rename_i hother
          rw [if_neg hother] at h
          exact h
      · rw [if_neg hsame, has, get?]
        split
        · rfl
        · rename_i hother
          rw [if_neg hother] at h
          exact ih h

namespace FillSession

variable {σ : Type} {store : AnswerStore σ} {link payload : Json} {s after : FillSession}
  {outside : σ} {failure : Failure}

/-! ### A fetched value that cannot be taken over -/

/-- The document in a fetched value. -/
def documentOf (payload : Json) : Except Failure Document :=
  Document.load ((payload.getD "template_content").orElse (.str ""))

/-- A fetched value is a record with a document and answers whose versions are whole numbers. -/
structure Loadable (payload : Json) : Prop where
  isObject : payload.isObject = true
  document : ∃ document, documentOf payload = .ok document
  versions : ∃ records versions, recordsOf payload = .ok records ∧
    versionsOf records = .ok versions

/-- The session after a load that failed: the parts that could be read are those of the fetched
value, up to the answers, which follow the document only. -/
def halfway (payload : Json) (s : FillSession) : FillSession :=
  { describe payload s with
    document :=
      match documentOf payload with
      | .ok document => some document
      | .error _ => s.document
    answers :=
      match documentOf payload, recordsOf payload with
      | .ok _, .ok records => .ofEntries (Answers.flatten records)
      | _, _ => s.answers }

/-- What can be read of a fetched value, up to the answers, is what the session has. -/
structure Repeats (payload : Json) (s : FillSession) : Prop where
  described : describe payload s = s
  document : ∀ document, documentOf payload = .ok document → s.document = some document
  answers : ∀ document records, documentOf payload = .ok document →
    recordsOf payload = .ok records → s.answers = .ofEntries (Answers.flatten records)

/-- What a load replaces last has stayed. -/
structure Stays (s after : FillSession) : Prop where
  presentation : after.presentation = s.presentation
  versions : after.versions = s.versions
  conflicts : after.conflicts = s.conflicts
  errors : after.errors = s.errors

theorem Stays.refl (s : FillSession) : Stays s s := ⟨rfl, rfl, rfl, rfl⟩

theorem stays_halfway (payload : Json) (s : FillSession) : Stays s (halfway payload s) :=
  ⟨rfl, rfl, rfl, rfl⟩

theorem seed_completes (h : Loadable payload) (s : FillSession) :
    ((seed payload).run s).1 = .ok () := by
  obtain ⟨hobject, ⟨document, hdocument⟩, records, versions, hrecords, hversions⟩ := h
  rw [(Seeds.completed hobject hdocument hrecords hversions).run]

/-- How a fetched value that cannot be taken over fails, and what is left: the session with the
parts taken over that could be read. -/
theorem seed_fails (h : ¬ Loadable payload) (s : FillSession) :
    ∃ failure, (seed payload).run s =
      (.error failure, if payload.isObject then halfway payload s else s) := by
  have hseeds := seeds payload s
  generalize (seed payload).run s = reached at hseeds
  cases hseeds with
  | noObject hobject => exact ⟨.misfit .part, by simp [hobject]⟩
  | noDocument hobject hdocument =>
      refine ⟨_, congrArg _ ?_⟩
      simp only [hobject, if_true, halfway, documentOf, hdocument]
      rfl
  | noRecords hobject hdocument hrecords =>
      refine ⟨_, congrArg _ ?_⟩
      simp only [hobject, if_true, halfway, documentOf, hdocument, hrecords]
      rfl
  | noVersions hobject hdocument hrecords hversions =>
      refine ⟨_, congrArg _ ?_⟩
      simp only [hobject, if_true, halfway, documentOf, hdocument, hrecords]
  | completed hobject hdocument hrecords hversions =>
      exact absurd ⟨hobject, ⟨_, hdocument⟩, _, _, hrecords, hversions⟩ h

/-- A fetched value is taken over just if it can be. -/
theorem seed_fails_iff (payload : Json) (s : FillSession) :
    (∃ failure, ((seed payload).run s).1 = .error failure) ↔ ¬ Loadable payload := by
  constructor
  · rintro ⟨failure, hfails⟩ hload
    rw [seed_completes hload] at hfails
    cases hfails
  · intro hload
    obtain ⟨failure, hrun⟩ := seed_fails hload s
    exact ⟨failure, by rw [hrun]⟩

/-- Nothing is lost just if what was taken over is what was there. -/
theorem halfway_eq_iff : halfway payload s = s ↔ Repeats payload s := by
  constructor
  · intro h
    have hdocument := congrArg FillSession.document h
    have hanswers := congrArg FillSession.answers h
    constructor
    · have hdescribed : describe payload s =
          { halfway payload s with document := s.document, answers := s.answers } := rfl
      rw [hdescribed, h]
    · intro document hread
      simp only [halfway, hread] at hdocument
      exact hdocument.symm
    · intro document records hread hrecords
      simp only [halfway, hread, hrecords] at hanswers
      exact hanswers.symm
  · intro h
    unfold halfway
    rw [h.described]
    cases hread : documentOf payload with
    | error failure => rfl
    | ok document =>
        cases hrecords : recordsOf payload with
        | error failure => simp [← h.document document hread]
        | ok records =>
            simp [← h.document document hread, ← h.answers document records hread hrecords]

/-! ### Calls whose loads fail -/

/-- If the call is a load, it fails. -/
def Call.Fails (store : AnswerStore σ) (link : Json) (both : FillSession × σ) (call : Call) :
    Prop :=
  call = .load → ∃ failure, ((FillSession.load store link).run both).1 = .error failure

/-- Every load among the calls fails. -/
def LoadsFail (store : AnswerStore σ) (link : Json) : FillSession × σ → List Call → Prop
  | _, [] => True
  | both, call :: calls =>
    call.Fails store link both ∧ LoadsFail store link (call.after store link both) calls

/-- How a load ends and what it leaves, by what the store gives. -/
theorem load_fails_iff (store : AnswerStore σ) (link : Json) (s : FillSession) (outside : σ) :
    (∃ failure, ((load store link).run (s, outside)).1 = .error failure) ↔
      (∃ failure, ((store.fetch link).run outside).1 = .error failure) ∨
        ∃ payload, ((store.fetch link).run outside).1 = .ok payload ∧ ¬ Loadable payload := by
  rw [run_load]
  cases hfetch : (store.fetch link).run outside with
  | mk fetched now =>
      cases fetched with
      | error failure => simp
      | ok payload =>
          simpa using seed_fails_iff payload s

theorem load_unfetched (h : ((store.fetch link).run outside).1 = .error failure) :
    ((load store link).run (s, outside)).2.1 = s := by
  rw [run_load]
  cases hfetch : (store.fetch link).run outside with
  | mk fetched now =>
      rw [hfetch] at h
      obtain rfl : fetched = .error failure := h
      rfl

theorem load_halfway (h : ((store.fetch link).run outside).1 = .ok payload)
    (hload : ¬ Loadable payload) :
    ((load store link).run (s, outside)).2.1 =
      if payload.isObject then halfway payload s else s := by
  rw [run_load]
  cases hfetch : (store.fetch link).run outside with
  | mk fetched now =>
      rw [hfetch] at h
      obtain rfl : fetched = .ok payload := h
      obtain ⟨failure, hrun⟩ := seed_fails hload s
      simp only [hrun]

/-- **A load that fails keeps what a load replaces last.** -/
theorem stays_of_load_fails (h : ((load store link).run (s, outside)).1 = .error failure) :
    Stays s ((load store link).run (s, outside)).2.1 := by
  obtain ⟨failure, hfetch⟩ | ⟨payload, hfetch, hload⟩ :=
    (load_fails_iff store link s outside).mp ⟨failure, h⟩
  · rw [load_unfetched hfetch]
    exact .refl s
  · rw [load_halfway hfetch hload]
    split
    · exact stays_halfway payload s
    · exact .refl s

/-- What is blocked has stayed blocked: the field, and a session that was never loaded. -/
structure Held (id : Json) (s after : FillSession) : Prop where
  blocked : s.conflicts.has id = true → after.conflicts.has id = true
  unloaded : s.presentation = none → after.presentation = none

theorem Held.refl (id : Json) (s : FillSession) : Held id s s :=
  ⟨fun hblocked => hblocked, fun hnone => hnone⟩

theorem Held.trans {id : Json} {s' : FillSession} (h : Held id s s') (h' : Held id s' after) :
    Held id s after := ⟨h'.blocked ∘ h.blocked, h'.unloaded ∘ h.unloaded⟩

theorem Stays.held (h : Stays s after) (id : Json) : Held id s after :=
  ⟨fun hblocked => by rw [h.conflicts, hblocked], fun hnone => by rw [h.presentation, hnone]⟩

/-- A save that is recorded blocks a field or none, and opens none. -/
theorem has_record {id : Json} (h : s.conflicts.has id = true) (q : Json)
    (outcome : SaveOutcome) : (s.record q outcome).conflicts.has id = true := by
  cases outcome with
  | conflict c => exact Fields.has_set_of_has h q c
  | accepted | rejected | failed => exact h

/-- A call that is no load, or a load that fails, opens nothing. -/
theorem held_after {call : Call} (h : call.Fails store link (s, outside)) (id : Json) :
    Held id s (call.after store link (s, outside)).1 := by
  cases call with
  | load =>
      obtain ⟨failure, hfails⟩ := h rfl
      exact (stays_of_load_fails hfails).held id
  | answer q value =>
      have hdoes := does store link s outside (.answer q value)
      generalize (Call.answer q value).after store link (s, outside) = both at hdoes
      cases hdoes with
      | refused hasks => exact .refl id s
      | unsaved hasks hsave =>
          constructor
          · intro hblocked
            exact hblocked
          · intro hnone
            rw [hasks.presented] at hnone
            cases hnone
      | @saved _ _ p outcome now hasks hsave =>
          constructor
          · intro hblocked
            have happlied : (s.applyAnswer p q value).conflicts.has id = true := hblocked
            exact has_record happlied q outcome
          · intro hnone
            rw [hasks.presented] at hnone
            cases hnone
  | submit =>
      have hdoes := does store link s outside .submit
      generalize Call.submit.after store link (s, outside) = both at hdoes
      cases hdoes with
      | withheld | unsubmitted | submitted =>
          exact ⟨fun hblocked => hblocked, fun hnone => hnone⟩

/-- **Along calls whose loads fail nothing is opened.** -/
theorem held_run {calls : List Call} (h : LoadsFail store link (s, outside) calls) (id : Json) :
    Held id s (run store link calls (s, outside)).1 := by
  induction calls generalizing s outside with
  | nil => exact .refl id s
  | cons call calls ih =>
      obtain ⟨hcall, hcalls⟩ := h
      exact (held_after hcall id).trans (ih hcalls)

theorem canSubmit_of_has {id : Json} (h : s.conflicts.has id = true) : s.canSubmit = false := by
  rw [canSubmit]
  cases hconflicts : s.conflicts with
  | nil =>
      rw [hconflicts] at h
      cases h
  | cons c conflicts => simp

/-- **How far a load that fails goes.**  Take any session, new or in use, and any store.  A load
fails just if the store does, or gives a value that cannot be taken over.  It keeps what the
respondent sees, the versions, the blocked fields and the notes on saves in every case, and the
whole session if the store fails or the value is no record.  Of a record it takes over what it could
read: what describes the questionnaire, the lock among it, then the document, then the answers.  So
the session is as it was just if all that repeats what was there.  Whatever is called, as long as
every load fails, a blocked field stays blocked, so that the session cannot be submitted, and a
session that was never loaded has nothing to see. -/
theorem load_that_fails (store : AnswerStore σ) (link : Json) (s : FillSession) (outside : σ) :
    let fetched := ((store.fetch link).run outside).1
    let ended := (load store link).run (s, outside)
    ((∃ failure, ended.1 = .error failure) ↔
        (∃ failure, fetched = .error failure) ∨
          ∃ payload, fetched = .ok payload ∧ ¬ Loadable payload) ∧
      (∀ failure, ended.1 = .error failure → Stays s ended.2.1) ∧
      (∀ failure, fetched = .error failure → ended.2.1 = s) ∧
      (∀ payload, fetched = .ok payload → ¬ Loadable payload →
        ended.2.1 = (if payload.isObject then halfway payload s else s) ∧
          (ended.2.1 = s ↔ payload.isObject = true → Repeats payload s)) ∧
      ∀ calls, LoadsFail store link (s, outside) calls →
        let after := (run store link calls (s, outside)).1
        (∀ id, s.conflicts.has id = true →
          after.conflicts.has id = true ∧ after.canSubmit = false) ∧
        (s.presentation = none → after.presentation = none) := by
  intro fetched ended
  refine ⟨load_fails_iff store link s outside, fun failure h => stays_of_load_fails h,
    fun failure h => load_unfetched h, ?_, ?_⟩
  · intro payload hfetch hload
    have hended : ended.2.1 = if payload.isObject then halfway payload s else s :=
      load_halfway hfetch hload
    refine ⟨hended, ?_⟩
    rw [hended]
    by_cases hobject : payload.isObject = true
    · simp [hobject, halfway_eq_iff]
    · simp [hobject]
  · intro calls hcalls after
    constructor
    · intro id hid
      have hblocked := (held_run hcalls id).blocked hid
      exact ⟨hblocked, canSubmit_of_has hblocked⟩
    · exact (held_run hcalls .null).unloaded

/-- A store that gives one value after another and meets every save with a newer version. -/
def handing : AnswerStore (List Json) where
  fetch _ := fun payloads =>
    match payloads with
    | [] => (.error (.remote "gone" .null), [])
    | payload :: rest => (.ok payload, rest)
  save _ _ _ _ := pure (.conflict ⟨.int 3, .null⟩)
  submit _ := pure ()

/-- A questionnaire with one question and its answer of some version. -/
def posed (locked : Bool) (value : String) (version : Json) : Json :=
  .obj [("instance_id", .int 1), ("is_locked", .bool locked),
    ("template_content", .obj [("items", .arr [.obj [("type", .str "line"), ("id", .str "q")]])]),
    ("answers", .obj [("q", .obj [("value", .str value), ("version", version)])])]

/-- A session whose answer met a newer version, and a store that has an empty record left. -/
def contested : FillSession × List Json :=
  run handing (.str "k") [.load, .answer (.str "q") (.str "yes")]
    ({}, [posed false "no" (.int 2), .obj []])

/-- A blocked field stays blocked through a load that gets an empty record and one that gets
nothing; the first of them takes over that the questionnaire has no number. -/
theorem load_that_fails_contested :
    let ended := (load handing (.str "k")).run contested
    (∃ failure, ended.1 = .error failure) ∧ ¬ Loadable (.obj []) ∧ Stays contested.1 ended.2.1 ∧
      ended.2.1 ≠ contested.1 ∧ LoadsFail handing (.str "k") contested [.load, .load, .submit] ∧
      contested.1.conflicts.has (.str "q") = true ∧
      (run handing (.str "k") [.load, .load, .submit] contested).1.canSubmit = false := by
  intro ended
  have hends : ended.1 = .error (.malformed (.text ⟨.value, 0, 1, 1⟩)) := rfl
  have hload : ¬ Loadable (.obj []) := (seed_fails_iff (.obj []) {}).mp ⟨_, rfl⟩
  have hcalls : LoadsFail handing (.str "k") contested [.load, .load, .submit] :=
    ⟨fun _ => ⟨_, rfl⟩, fun _ => ⟨_, rfl⟩, nofun, trivial⟩
  obtain ⟨-, hstays, -, hextent, hopened⟩ :=
    load_that_fails handing (.str "k") contested.1 contested.2
  refine ⟨⟨_, hends⟩, hload, hstays _ hends, ?_, hcalls, rfl, ?_⟩
  · intro hsame
    have hrepeats := (hextent (.obj []) rfl hload).2.mp hsame rfl
    cases congrArg FillSession.instanceId hrepeats.described
  · exact ((hopened _ hcalls).1 (.str "q") rfl).2

/-- A load that gets an empty record undoes a lock and forgets the number of the questionnaire, and
one that gets a version that is no number puts an answer beside the version of the one before. -/
theorem failed_load_unlocks :
    let reloaded (payloads : List Json) :=
      (load handing (.str "k")).run (run handing (.str "k") [.load] ({}, payloads))
    let locked := (run handing (.str "k") [.load] ({}, [posed true "no" (.int 2), .obj []])).1
    let unlocked := reloaded [posed true "no" (.int 2), .obj []]
    let unpaired := reloaded [posed false "no" (.int 2), posed false "yes" (.arr [.null])]
    (locked.isLocked = true ∧ locked.instanceId = .int 1 ∧
      unlocked.1 = .error (.malformed (.text ⟨.value, 0, 1, 1⟩)) ∧
      unlocked.2.1.isLocked = false ∧ unlocked.2.1.instanceId = .null) ∧
      unpaired.1 = .error (.misfit .kind) ∧ unpaired.2.1.answers = [(.str "q", .str "yes")] ∧
      unpaired.2.1.versions = [(.str "q", .int 2)] :=
  ⟨⟨rfl, rfl, rfl, rfl, rfl⟩, rfl, rfl, rfl⟩

end FillSession

end Questionnaire
