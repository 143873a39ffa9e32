/-
What a session asks of the store.

A store can be listened to: `noting` notes every request with what came of it, and the session
cannot tell the difference, `run_noting`.  What the session may ask next is read off the notes, the
latest of which stands first: the version of a field that was confirmed last, and whether a
conflict or a lock came up that nothing has settled since.  The session itself keeps no notes, but
what it keeps in their place agrees with them after every call, whatever the store answers:
`Tracks`.  So each request is one that the notes before it allow, and an answer that they allow is
sent, `store_discipline`.
-/
import Questionnaire.Proofs.Fill.Mirrored
import Questionnaire.Proofs.Fill.Naming

namespace Questionnaire

/-- A request to a store, with what came of it. -/
inductive Asked
  | fetched (answer : Except Failure Json)
  | saved (id value version : Json) (answer : Except Failure SaveOutcome)
  | submitted (answer : Except Failure Unit)

section

variable {σ α : Type}

/-- An attempt whose outcome is noted. -/
def Attempt.noted (a : Attempt σ α) (note : Except Failure α → Asked) :
    Attempt (σ × List Asked) α := fun both =>
  let (answer, outside) := a.run both.1
  (answer, (outside, note answer :: both.2))

/-- The store that notes what it is asked, the latest request first. -/
def AnswerStore.noting (store : AnswerStore σ) : AnswerStore (σ × List Asked) where
  fetch link := (store.fetch link).noted .fetched
  save link id value version := (store.save link id value version).noted (.saved id value version)
  submit link := (store.submit link).noted .submitted

end

namespace FillSession

open Fields (isName Named)

variable {σ : Type} {store : AnswerStore σ} {link id value q payload : Json} {s : FillSession}
  {outside : σ} {log : List Asked} {calls : List Call}

/-! ### Loading, once more -/

/-- The versions that a fetched value is loaded with, if it can be taken over. -/
def seededBy (payload : Json) : Option (Entries Json) :=
  match payload.isObject, Document.load ((payload.getD "template_content").orElse (.str "")),
    recordsOf payload with
  | true, .ok _, .ok records => (versionsOf records).toOption
  | _, _, _ => none

/-- A load that does not complete leaves what the session knows of the store. -/
structure Unseeded (s after : FillSession) : Prop where
  versions : after.versions = s.versions
  conflicts : after.conflicts = s.conflicts
  presentation : after.presentation = s.presentation

/-- A load completes just if there are versions to load. -/
theorem seed_ends (payload : Json) (s : FillSession) :
    match seededBy payload with
    | some versions => ∃ document records,
        (seed payload).run s = (.ok (), loaded payload document records versions s)
    | none => ∃ failure after, (seed payload).run s = (.error failure, after) ∧
        Unseeded s after := by
  have hseeds := seeds payload s
  generalize (seed payload).run s = reached at hseeds
  cases hseeds with
  | noObject hobject =>
      simp only [seededBy, hobject]
      exact ⟨_, _, rfl, rfl, rfl, rfl⟩
  | noDocument hobject hdocument =>
      simp only [seededBy, hobject, hdocument]
      exact ⟨_, _, rfl, rfl, rfl, rfl⟩
  | noRecords hobject hdocument hrecords =>
      simp only [seededBy, hobject, hdocument, hrecords]
      exact ⟨_, _, rfl, rfl, rfl, rfl⟩
  | noVersions hobject hdocument hrecords hversions =>
      have hnone : (versionsOf _).toOption = none := congrArg Except.toOption hversions
      simp only [seededBy, hobject, hdocument, hrecords, hnone]
      exact ⟨_, _, rfl, rfl, rfl, rfl⟩
  | completed hobject hdocument hrecords hversions =>
      have hsome : (versionsOf _).toOption = some _ := congrArg Except.toOption hversions
      simp only [seededBy, hobject, hdocument, hrecords, hsome]
      exact ⟨_, _, rfl⟩

/-- What is fetched says whether the questionnaire is locked, also where it cannot be loaded. -/
theorem isLocked_seed (payload : Json) (s : FillSession) :
    ((seed payload).run s).2.isLocked =
      if payload.isObject then (payload.getD "is_locked").truthy else s.isLocked := by
  have hseeds := seeds payload s
  generalize (seed payload).run s = reached at hseeds
  cases hseeds with
  | noObject hobject | noDocument hobject _ | noRecords hobject _ _ | noVersions hobject _ _ _
  | completed hobject _ _ _ => rw [hobject]; rfl

/-! ### Reading the notes -/

/-- The request is a load that completes. -/
def Completes : Asked → Prop
  | .fetched (.ok payload) => (seededBy payload).isSome = true
  | _ => False

/-- The request fetches a questionnaire that is not locked. -/
def Unlocks : Asked → Prop
  | .fetched (.ok payload) => payload.isObject = true ∧ (payload.getD "is_locked").truthy = false
  | _ => False

/-- The request meets a lock, or makes one. -/
def Locks : Asked → Prop
  | .fetched (.ok payload) => payload.isObject = true ∧ (payload.getD "is_locked").truthy = true
  | .saved _ _ _ (.ok (.rejected reason _)) => reason.isLocked = true
  | .submitted (.ok _) => True
  | _ => False

/-- The request saves a field and meets a newer version of it. -/
def Conflicts (q : Json) : Asked → Prop
  | .saved id _ _ (.ok (.conflict _)) => id.samePart q = true
  | _ => False

/-- A request came up, and none since that settles it. -/
def Since (mark settles : Asked → Prop) (log : List Asked) : Prop :=
  ∃ later e earlier, log = later ++ e :: earlier ∧ mark e ∧ ∀ f ∈ later, ¬settles f

theorem not_since_nil (mark settles : Asked → Prop) : ¬Since mark settles [] := by
  rintro ⟨later, e, earlier, h, -⟩
  cases later <;> cases h

theorem since_cons_iff {mark settles : Asked → Prop} {e : Asked} :
    Since mark settles (e :: log) ↔ mark e ∨ ¬settles e ∧ Since mark settles log := by
  constructor
  · rintro ⟨later, f, earlier, h, hmark, hnot⟩
    cases later with
    | nil =>
        obtain ⟨rfl, rfl⟩ := List.cons.inj h
        exact Or.inl hmark
    | cons g later =>
        obtain ⟨rfl, rfl⟩ := List.cons.inj h
        obtain ⟨hfirst, hlater⟩ := List.forall_mem_cons.mp hnot
        exact Or.inr ⟨hfirst, later, f, earlier, rfl, hmark, hlater⟩
  · rintro (hmark | ⟨hfirst, later, f, earlier, rfl, hmark, hnot⟩)
    · exact ⟨[], e, log, rfl, hmark, fun _ hf => nomatch hf⟩
    · exact ⟨e :: later, f, earlier, rfl, hmark, List.forall_mem_cons.mpr ⟨hfirst, hnot⟩⟩

/-- A save of the field met a newer version, and no load has completed since. -/
def Contested (q : Json) : List Asked → Prop := Since (Conflicts q) Completes

/-- The questionnaire was locked when it was last heard of. -/
def Locked : List Asked → Prop := Since Locks Unlocks

/-- A load has completed. -/
def Loaded (log : List Asked) : Prop := ∃ e ∈ log, Completes e

/-- The version of a field that was accepted last, or that came with the last load that completed;
zero where there is none. -/
def confirmed (q : Json) : List Asked → Json
  | [] => .int 0
  | .fetched (.ok payload) :: earlier =>
    match seededBy payload with
    | some versions => ((Fields.ofEntries versions).get? q).getD (.int 0)
    | none => confirmed q earlier
  | .saved id _ _ (.ok (.accepted version _)) :: earlier =>
    if id.samePart q then version else confirmed q earlier
  | _ :: earlier => confirmed q earlier

/-! ### What the session keeps of them -/

/-- The session agrees with the notes. -/
structure Tracks (s : FillSession) (log : List Asked) : Prop where
  versionNames : Named s.versions
  conflictNames : Named s.conflicts
  version : ∀ q, isName q = true → s.version q = confirmed q log
  blocked : ∀ q, isName q = true → (s.conflicts.has q = true ↔ Contested q log)
  locked : s.isLocked = true ↔ Locked log
  presented : s.presentation.isSome = true ↔ Loaded log

theorem tracks_start : Tracks {} [] where
  versionNames := .nil
  conflictNames := .nil
  version := fun _ _ => rfl
  blocked := fun _ _ => iff_of_false Bool.false_ne_true (not_since_nil _ _)
  locked := iff_of_false Bool.false_ne_true (not_since_nil _ _)
  presented := iff_of_false Bool.false_ne_true fun ⟨_, he, _⟩ => nomatch he

theorem contested_cons_iff {e : Asked} :
    Contested q (e :: log) ↔ Conflicts q e ∨ ¬Completes e ∧ Contested q log := since_cons_iff

theorem locked_cons_iff {e : Asked} :
    Locked (e :: log) ↔ Locks e ∨ ¬Unlocks e ∧ Locked log := since_cons_iff

theorem loaded_cons_iff {e : Asked} : Loaded (e :: log) ↔ Completes e ∨ Loaded log := by
  simp [Loaded]

section

variable {e : Asked}

theorem contested_iff_cons (hconflicts : ¬Conflicts q e) (hcompletes : ¬Completes e) :
    Contested q log ↔ Contested q (e :: log) := by
  rw [contested_cons_iff, or_iff_right hconflicts, and_iff_right hcompletes]

theorem locked_iff_cons (hlocks : ¬Locks e) (hunlocks : ¬Unlocks e) :
    Locked log ↔ Locked (e :: log) := by
  rw [locked_cons_iff, or_iff_right hlocks, and_iff_right hunlocks]

theorem loaded_iff_cons (hcompletes : ¬Completes e) : Loaded log ↔ Loaded (e :: log) := by
  rw [loaded_cons_iff, or_iff_right hcompletes]

end

/-- A request that settles nothing and brings nothing up. -/
structure Idle (e : Asked) : Prop where
  not_completes : ¬Completes e
  not_unlocks : ¬Unlocks e
  not_locks : ¬Locks e
  not_conflicts : ∀ q, ¬Conflicts q e
  confirmed : ∀ q log, confirmed q (e :: log) = FillSession.confirmed q log

theorem idle_unfetched (failure : Failure) : Idle (.fetched (.error failure)) :=
  ⟨not_false, not_false, not_false, fun _ => not_false, fun _ _ => rfl⟩

theorem idle_unsaved (id value version : Json) (failure : Failure) :
    Idle (.saved id value version (.error failure)) :=
  ⟨not_false, not_false, not_false, fun _ => not_false, fun _ _ => rfl⟩

theorem idle_failed (id value version error : Json) :
    Idle (.saved id value version (.ok (.failed error))) :=
  ⟨not_false, not_false, not_false, fun _ => not_false, fun _ _ => rfl⟩

theorem idle_unsubmitted (failure : Failure) : Idle (.submitted (.error failure)) :=
  ⟨not_false, not_false, not_false, fun _ => not_false, fun _ _ => rfl⟩

/-- Two sessions are the same in what they keep of the notes. -/
structure Alike (s s' : FillSession) : Prop where
  versions : s'.versions = s.versions
  conflicts : s'.conflicts = s.conflicts
  isLocked : s'.isLocked = s.isLocked
  presentation : s'.presentation.isSome = s.presentation.isSome

theorem Alike.refl (s : FillSession) : Alike s s := ⟨rfl, rfl, rfl, rfl⟩

theorem Asks.alike {p : Presentation} (h : s.Asks id p) (value : Json) :
    Alike s (s.applyAnswer p id value) :=
  ⟨rfl, rfl, rfl, by rw [h.presented]; rfl⟩

theorem Tracks.of_alike {s' : FillSession} (h : Tracks s log) (hs : Alike s s') :
    Tracks s' log where
  versionNames := hs.versions ▸ h.versionNames
  conflictNames := hs.conflicts ▸ h.conflictNames
  version := fun q hq => by
    show (s'.versions.get? q).getD (.int 0) = _
    rw [hs.versions]
    exact h.version q hq
  blocked := fun q hq => by rw [hs.conflicts, h.blocked q hq]
  locked := by rw [hs.isLocked, h.locked]
  presented := by rw [hs.presentation, h.presented]

theorem Tracks.idle {e : Asked} (h : Tracks s log) (he : Idle e) : Tracks s (e :: log) where
  versionNames := h.versionNames
  conflictNames := h.conflictNames
  version := fun q hq => by rw [h.version q hq, he.confirmed]
  blocked := fun q hq => by
    rw [h.blocked q hq, contested_iff_cons (he.not_conflicts q) he.not_completes]
  locked := by rw [h.locked, locked_iff_cons he.not_locks he.not_unlocks]
  presented := by rw [h.presented, loaded_iff_cons he.not_completes]

theorem Tracks.isLocked_seed (h : Tracks s log) (payload : Json) :
    ((seed payload).run s).2.isLocked = true ↔ Locked (.fetched (.ok payload) :: log) := by
  rw [FillSession.isLocked_seed, locked_cons_iff, ← h.locked, Locks, Unlocks]
  cases payload.isObject <;> cases (payload.getD "is_locked").truthy <;> simp

theorem Tracks.seed (h : Tracks s log) (payload : Json) :
    Tracks ((FillSession.seed payload).run s).2 (.fetched (.ok payload) :: log) := by
  have hends := seed_ends payload s
  have hlocked := h.isLocked_seed payload
  cases hseeded : seededBy payload with
  | some versions =>
      rw [hseeded] at hends
      obtain ⟨document, records, hrun⟩ := hends
      have hcompletes : Completes (.fetched (.ok payload)) := by
        rw [Completes, hseeded]
        rfl
      rw [hrun] at hlocked ⊢
      constructor
      case versionNames => exact .ofEntries versions
      case conflictNames => exact .nil
      case version =>
        intro q hq
        rw [confirmed, hseeded]
        rfl
      case blocked =>
        intro q hq
        refine iff_of_false Bool.false_ne_true fun hcontested => ?_
        obtain hconflicts | ⟨hnot, -⟩ := contested_cons_iff.mp hcontested
        · exact hconflicts
        · exact hnot hcompletes
      case locked => exact hlocked
      case presented => exact iff_of_true rfl (loaded_cons_iff.mpr (Or.inl hcompletes))
  | none =>
      rw [hseeded] at hends
      obtain ⟨failure, after, hrun, hafter⟩ := hends
      have hcompletes : ¬Completes (.fetched (.ok payload)) := by
        rw [Completes, hseeded]
        exact Bool.false_ne_true
      rw [hrun] at hlocked ⊢
      constructor
      case versionNames => exact hafter.versions ▸ h.versionNames
      case conflictNames => exact hafter.conflicts ▸ h.conflictNames
      case version =>
        intro q hq
        show (after.versions.get? q).getD (.int 0) = _
        rw [hafter.versions, confirmed, hseeded]
        exact h.version q hq
      case blocked =>
        intro q hq
        rw [hafter.conflicts, h.blocked q hq]
        exact contested_iff_cons not_false hcompletes
      case locked => exact hlocked
      case presented => rw [hafter.presentation, h.presented, loaded_iff_cons hcompletes]

theorem Tracks.record (h : Tracks s log) (hid : isName id = true) (value version : Json)
    (outcome : SaveOutcome) :
    Tracks (s.record id outcome) (.saved id value version (.ok outcome) :: log) := by
  cases outcome with
  | accepted accepted updatedAt =>
      constructor
      case versionNames => exact h.versionNames.set hid _
      case conflictNames => exact h.conflictNames
      case version =>
        intro q hq
        show ((s.versions.set id accepted).get? q).getD (.int 0) = _
        rw [h.versionNames.get?_set hid hq, confirmed]
        cases id.samePart q with
        | true => rfl
        | false => exact h.version q hq
      case blocked =>
        exact fun q hq => (h.blocked q hq).trans (contested_iff_cons not_false not_false)
      case locked => exact h.locked.trans (locked_iff_cons not_false not_false)
      case presented => exact h.presented.trans (loaded_iff_cons not_false)
  | conflict c =>
      constructor
      case versionNames => exact h.versionNames
      case conflictNames => exact h.conflictNames.set hid _
      case version => exact h.version
      case blocked =>
        intro q hq
        show (s.conflicts.set id c).has q = true ↔ _
        rw [h.conflictNames.has_set hid hq, Bool.or_eq_true, h.blocked q hq, contested_cons_iff]
        exact or_congr_right (and_iff_right not_false).symm
      case locked => exact h.locked.trans (locked_iff_cons not_false not_false)
      case presented => exact h.presented.trans (loaded_iff_cons not_false)
  | rejected reason message =>
      constructor
      case versionNames => exact h.versionNames
      case conflictNames => exact h.conflictNames
      case version => exact h.version
      case blocked =>
        exact fun q hq => (h.blocked q hq).trans (contested_iff_cons not_false not_false)
      case locked =>
        show (s.isLocked || reason.isLocked) = true ↔ _
        rw [Bool.or_eq_true, h.locked, or_comm, locked_cons_iff]
        exact or_congr_right (and_iff_right not_false).symm
      case presented => exact h.presented.trans (loaded_iff_cons not_false)
  | failed error =>
      exact (h.idle (idle_failed id value version error)).of_alike ⟨rfl, rfl, rfl, rfl⟩

theorem Tracks.submitted (h : Tracks s log) :
    Tracks { s with isLocked := true } (.submitted (.ok ()) :: log) where
  versionNames := h.versionNames
  conflictNames := h.conflictNames
  version := h.version
  blocked := fun q hq =>
    (h.blocked q hq).trans (contested_iff_cons not_false not_false)
  locked := iff_of_true rfl (locked_cons_iff.mpr (Or.inl trivial))
  presented := h.presented.trans (loaded_iff_cons not_false)

/-! ### What a call asks -/

/-- An answer to the question is sent to the store, as the notes have it. -/
structure Sendable (id : Json) (log : List Asked) : Prop where
  loaded : Loaded log
  named : id.truthy = true
  isName : isName id = true
  opened : ¬Locked log
  uncontested : ¬Contested id log

/-- The session sends an answer just if the notes say so. -/
theorem Tracks.asks_iff (h : Tracks s log) (id : Json) :
    (∃ p, s.Asks id p) ↔ Sendable id log := by
  constructor
  · rintro ⟨p, hasks⟩
    exact {
      loaded := h.presented.mp (by rw [hasks.presented]; rfl)
      named := hasks.named
      isName := hasks.isName
      opened := fun hlocked => by
        have hsession := h.locked.mpr hlocked
        rw [hasks.opened] at hsession
        cases hsession
      uncontested := fun hcontested => by
        have hsession := (h.blocked id hasks.isName).mpr hcontested
        rw [hasks.unblocked] at hsession
        cases hsession }
  · intro hsendable
    obtain ⟨p, hp⟩ := Option.isSome_iff_exists.mp (h.presented.mpr hsendable.loaded)
    exact ⟨p, {
      presented := hp
      named := hsendable.named
      isName := hsendable.isName
      opened := Bool.eq_false_iff.mpr fun hlocked => hsendable.opened (h.locked.mp hlocked)
      unblocked := Bool.eq_false_iff.mpr fun hblocked =>
        hsendable.uncontested ((h.blocked id hsendable.isName).mp hblocked) }⟩

/-- What may be asked after what was asked before. -/
def Allows (earlier : List Asked) : Asked → Prop
  | .fetched _ => True
  | .saved id _ version _ => version = confirmed id earlier ∧ Sendable id earlier
  | .submitted _ => ∀ q, isName q = true → ¬Contested q earlier

theorem Tracks.allows_saved {p : Presentation} (h : Tracks s log) (hasks : s.Asks id p)
    (value : Json) (answer : Except Failure SaveOutcome) :
    Allows log (.saved id value (s.version id) answer) :=
  ⟨h.version id hasks.isName, (h.asks_iff id).mp ⟨p, hasks⟩⟩

theorem Tracks.allows_submitted (h : Tracks s log) (hopen : s.conflicts.isEmpty = true)
    (answer : Except Failure Unit) : Allows log (.submitted answer) := by
  intro q hq hcontested
  have hblocked := h.conflictNames.isEmpty_eq_false_iff.mpr ⟨q, hq, (h.blocked q hq).mpr hcontested⟩
  rw [hopen] at hblocked
  cases hblocked

theorem snd_of_noted {α : Type} {a : Attempt σ α} {note : Except Failure α → Asked}
    {answer : Except Failure α} {now : σ × List Asked}
    (h : (a.noted note).run (outside, log) = (answer, now)) : now.2 = note answer :: log := by
  obtain ⟨rfl, rfl⟩ := Prod.mk.inj h
  rfl

/-- What a call may add to the notes: nothing, or one request that they allow. -/
def Extends (log log' : List Asked) : Prop := log' = log ∨ ∃ e, Allows log e ∧ log' = e :: log

/-- The session agrees with the notes, to which at most one allowed request was added. -/
structure Follows (log : List Asked) (reached : FillSession × σ × List Asked) : Prop where
  tracks : Tracks reached.1 reached.2.2
  extending : Extends log reached.2.2

theorem follows_of_noted {s' : FillSession} {now : σ × List Asked} {e : Asked}
    (hnow : now.2 = e :: log) (htracks : Tracks s' (e :: log)) (hallows : Allows log e) :
    Follows log (s', now) :=
  ⟨hnow ▸ htracks, Or.inr ⟨e, hallows, hnow⟩⟩

/-- **The session agrees with the notes after every call, whatever the store answers, and asks at
most for one thing that they allow.** -/
theorem Tracks.after (h : Tracks s log) (store : AnswerStore σ) (link : Json) (outside : σ)
    (call : Call) : Follows log (call.after store.noting link (s, (outside, log))) := by
  have hdoes := does store.noting link s (outside, log) call
  generalize call.after store.noting link (s, (outside, log)) = reached at hdoes
  cases hdoes with
  | refused | withheld => exact ⟨h, Or.inl rfl⟩
  | unfetched hfetch =>
      exact follows_of_noted (snd_of_noted hfetch) (h.idle (idle_unfetched _)) trivial
  | fetched hfetch => exact follows_of_noted (snd_of_noted hfetch) (h.seed _) trivial
  | unsaved hasks hsave =>
      exact follows_of_noted (snd_of_noted hsave)
        ((h.of_alike (hasks.alike _)).idle (idle_unsaved ..)) (h.allows_saved hasks _ _)
  | saved hasks hsave =>
      exact follows_of_noted (snd_of_noted hsave)
        ((h.of_alike (hasks.alike _)).record hasks.isName _ _ _) (h.allows_saved hasks _ _)
  | unsubmitted hopen hsubmit =>
      exact follows_of_noted (snd_of_noted hsubmit) (h.idle (idle_unsubmitted _))
        (h.allows_submitted hopen _)
  | submitted hopen hsubmit =>
      exact follows_of_noted (snd_of_noted hsubmit) h.submitted (h.allows_submitted hopen _)

/-- An answer that can be sent is sent, under the version that was confirmed; any other is not. -/
theorem Tracks.answer (h : Tracks s log) (store : AnswerStore σ) (link id value : Json)
    (outside : σ) :
    let log' := ((Call.answer id value).after store.noting link (s, (outside, log))).2.2
    (Sendable id log → ∃ answer, log' = .saved id value (confirmed id log) answer :: log) ∧
      (¬Sendable id log → log' = log) := by
  have hdoes := does store.noting link s (outside, log) (.answer id value)
  intro log'
  have hlog' : log' = ((Call.answer id value).after store.noting link (s, (outside, log))).2.2 :=
    rfl
  generalize (Call.answer id value).after store.noting link (s, (outside, log)) = reached
    at hdoes hlog'
  rw [hlog', ← h.asks_iff]
  cases hdoes with
  | refused hnot => exact ⟨fun hasks => absurd hasks hnot, fun _ => rfl⟩
  | unsaved hasks hsave =>
      rw [← h.version id hasks.isName]
      exact ⟨fun _ => ⟨.error _, snd_of_noted hsave⟩, fun hnot => absurd ⟨_, hasks⟩ hnot⟩
  | saved hasks hsave =>
      rw [← h.version id hasks.isName]
      exact ⟨fun _ => ⟨.ok _, snd_of_noted hsave⟩, fun hnot => absurd ⟨_, hasks⟩ hnot⟩

/-! ### A run -/

/-- What a new session asks of a store in the course of some calls. -/
def asked (store : AnswerStore σ) (link : Json) (calls : List Call) (outside : σ) : List Asked :=
  (run store.noting link calls ({}, (outside, []))).2.2

/-- Every request is allowed by those before it. -/
def Disciplined (log : List Asked) : Prop :=
  ∀ later e earlier, log = later ++ e :: earlier → Allows earlier e

theorem Disciplined.extends {log' : List Asked} (h : Disciplined log) (hext : Extends log log') :
    Disciplined log' := by
  rcases hext with rfl | ⟨e, hallows, rfl⟩
  · exact h
  · intro later f earlier hsplit
    cases later with
    | nil =>
        obtain ⟨rfl, rfl⟩ := List.cons.inj hsplit
        exact hallows
    | cons g later => exact h later f earlier (List.cons.inj hsplit).2

theorem tracks_run (store : AnswerStore σ) (link : Json) (calls : List Call)
    (both : FillSession × σ × List Asked) (h : Tracks both.1 both.2.2)
    (hdisciplined : Disciplined both.2.2) :
    Tracks (run store.noting link calls both).1 (run store.noting link calls both).2.2 ∧
      Disciplined (run store.noting link calls both).2.2 := by
  induction calls generalizing both with
  | nil => exact ⟨h, hdisciplined⟩
  | cons call calls ih =>
      have hfollows := h.after store link both.2.1 call
      exact ih _ hfollows.tracks (hdisciplined.extends hfollows.extending)

theorem disciplined_nil : Disciplined [] := by
  intro later e earlier h
  cases later <;> cases h

/-- **The store is asked for nothing but what the requests before allow, whatever it answers.**  A
save names the version that was confirmed last; it comes after a load, and neither a conflict on its
field nor a lock has come up that no load has settled since.  A submission comes where no field is
contested.  An answer makes one request if those before allow it, and else none. -/
theorem store_discipline (store : AnswerStore σ) (link : Json) (calls : List Call) (outside : σ) :
    let log := asked store link calls outside
    Disciplined log ∧ ∀ id value,
      let log' := asked store link (calls ++ [.answer id value]) outside
      (Sendable id log → ∃ answer, log' = .saved id value (confirmed id log) answer :: log) ∧
        (¬Sendable id log → log' = log) := by
  intro log
  obtain ⟨htracks, hdisciplined⟩ :=
    tracks_run store link calls ({}, (outside, [])) tracks_start disciplined_nil
  refine ⟨hdisciplined, fun id value => ?_⟩
  have hanswer := htracks.answer store link id value
    (run store.noting link calls ({}, (outside, []))).2.1
  intro log'
  have hlog' : log' = ((Call.answer id value).after store.noting link
      (run store.noting link calls ({}, (outside, [])))).2.2 := by
    show (run store.noting link (calls ++ [.answer id value]) _).2.2 = _
    rw [run_append]
    rfl
  rw [hlog']
  exact hanswer

/-! ### Listening changes nothing -/

/-- The session and the store after a call, without the notes. -/
def unheard (both : FillSession × σ × List Asked) : FillSession × σ := (both.1, both.2.1)

/-- The store is where it is under the notes. -/
def Beneath (noted : σ × List Asked) (outside : σ) : Prop := noted.1 = outside

theorem noted_echoes {α : Type} (a : Attempt σ α) (note : Except Failure α → Asked)
    {f : α → α} (hf : ∀ x, f x = x) (outside : σ) (log : List Asked) :
    Echoes Beneath f ((a.noted note).run (outside, log))
      (a.run outside) where
  answer := by
    show (a.run outside).1 = ((a.run outside).1).map f
    cases (a.run outside).1 with
    | error failure => rfl
    | ok x => exact congrArg Except.ok (hf x).symm
  outside := rfl

theorem SaveOutcome.told_self (outcome : SaveOutcome) : outcome.told (fun v => v) = outcome := by
  cases outcome <;> rfl

/-- **A session that is listened to does what it does otherwise.** -/
theorem run_noting (store : AnswerStore σ) (link : Json) (calls : List Call)
    (both : FillSession × σ × List Asked) :
    unheard (run store.noting link calls both) = run store link calls (unheard both) := by
  induction calls generalizing both with
  | nil => rfl
  | cons call calls ih =>
      obtain ⟨s, outside, log⟩ := both
      have hbeneath : Beneath (outside, log) outside := rfl
      have hechoed : call.Echoed store.noting store link Beneath (fun v => v) s (outside, log)
          outside := by
        cases call with
        | load => exact noted_echoes _ _ (fun _ => rfl) outside log
        | answer q value => exact fun _ => noted_echoes _ _ SaveOutcome.told_self outside log
        | submit => exact noted_echoes _ _ (fun _ => rfl) outside log
      obtain ⟨hsession, houtside⟩ := mirrored_after (fun _ => rfl) hbeneath hechoed
      rw [told_id, told_id] at hsession
      rw [told_id] at houtside
      refine (ih _).trans (congrArg (run store link calls) ?_)
      exact Prod.ext hsession.symm houtside

end FillSession

end Questionnaire
