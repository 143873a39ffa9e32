/-
What becomes of the answers of an import.

An import gives its answers one after the other, and each of them meets its `Fate`: the
questionnaire has it already, or the store is asked and answers, or the session knows that the
questionnaire is locked and does not ask.  `Gives` runs through the answers in this way, and all
that the import reports is read off the fates.  Those of the last kind are reported nowhere, so that
the report accounts for every answer save for these: `import_accounts`.
-/
import Questionnaire.Fill.Import
import Questionnaire.Proofs.Editor.Standing
import Questionnaire.Proofs.Fill.Discipline

namespace Questionnaire

namespace Fields

variable {α : Type} {fs : Fields α} {id : Json}

/-- A new field goes to the end. -/
theorem set_of_get?_eq_none (h : fs.get? id = none) (value : α) :
    fs.set id value = fs ++ [(id, value)] := by
  induction fs with
  | nil => rfl
  | cons f fs ih =>
      obtain ⟨name, v⟩ := f
      rw [get?] at h
      cases hsame : name.samePart id with
      | true =>
          rw [hsame, if_pos rfl] at h
          cases h
      | false =>
          rw [hsame, if_neg Bool.false_ne_true] at h
          rw [set, hsame, if_neg Bool.false_ne_true, ih h, List.cons_append]

/-- Taking away a field that is not there changes nothing. -/
theorem erase_of_get?_eq_none (h : fs.get? id = none) : fs.erase id = fs := by
  induction fs with
  | nil => rfl
  | cons f fs ih =>
      obtain ⟨name, v⟩ := f
      rw [get?] at h
      cases hsame : name.samePart id with
      | true =>
          rw [hsame, if_pos rfl] at h
          cases h
      | false =>
          rw [hsame, if_neg Bool.false_ne_true] at h
          have hrest : fs.filter (fun f => !f.1.samePart id) = fs := ih h
          rw [erase, List.filter_cons, hsame, hrest]
          rfl

theorem get?_erase_str (fs : Fields α) {name other : String} (h : other ≠ name) :
    (fs.erase (.str name)).get? (.str other) = fs.get? (.str other) := by
  induction fs with
  | nil => rfl
  | cons f fs ih =>
      obtain ⟨id, v⟩ := f
      rw [erase, List.filter_cons]
      cases hsame : id.samePart (.str name) with
      | true =>
          have hother : id.samePart (.str other) = false := by
            cases id with
            | str text =>
                rw [samePart_str, beq_iff_eq] at hsame
                rw [samePart_str, hsame, beq_eq_false_iff_ne]
                exact Ne.symm h
            | null | bool | int | float | arr | obj => exact samePart_str_of_no_text rfl other
          rw [get?, hother]
          exact ih
      | false => exact congrArg (fun found => if id.samePart (.str other) then some v else found) ih

/-- Fields that distinct texts name are told under these. -/
theorem inWords_ofEntries {es : Entries α} (h : es.names.Nodup) : (ofEntries es).inWords = es := by
  have hwords : (ofEntries es).map (fun f => (f.1.words, f.2)) = es := by
    rw [ofEntries, List.map_map]
    exact List.map_id es
  rw [inWords, hwords, Entries.setAll_of_get?_eq_none (fun _ _ => Entries.get?_nil _) h]
  rfl

end Fields

/-- A store whose saves all have outcomes. -/
def AnswerStore.Concludes {σ : Type} (store : AnswerStore σ) : Prop :=
  ∀ link id value version outside, ∃ outcome,
    ((store.save link id value version).run outside).1 = .ok outcome

namespace FillSession

variable {σ : Type} {store : AnswerStore σ} {link : Json} {id : String} {value : Json}
  {s s' : FillSession} {outside now : σ} {answers before later : Entries Json}

/-! ### Fates -/

/-- What becomes of an answer that is imported. -/
inductive Fate
  /-- The questionnaire has this very answer. -/
  | unchanged
  /-- The session knows of a lock, and the store is not asked. -/
  | overlooked
  | asked (outcome : SaveOutcome)

/-- Where an import reports its answers; overlooked ones are not reported. -/
inductive Part
  | accepted | unchanged | conflicts | errors | overlooked
  deriving DecidableEq

def Fate.part : Fate → Part
  | unchanged => .unchanged
  | overlooked => .overlooked
  | asked (.accepted ..) => .accepted
  | asked (.conflict _) => .conflicts
  | asked (.rejected ..) | asked (.failed _) => .errors

/-- The names of the answers that come into a part. -/
def namesIn (part : Part) (fates : Entries Fate) : List String :=
  Entries.names (fates.filter (·.2.part = part))

def Fate.conflict? : Fate → Option Conflict
  | asked (.conflict c) => some c
  | _ => none

/-- Why the answer was refused or failed. -/
def Fate.error? : Fate → Option Json
  | asked (.rejected reason message) => some (message.orElse reason.code)
  | asked (.failed error) => some error
  | _ => none

/-- What is told of those answers of which there is something to tell. -/
def reported {β : Type} (tell : Fate → Option β) (fates : Entries Fate) : Entries β :=
  fates.filterMap fun fate => (tell fate.2).map (fate.1, ·)

theorem namesIn_sublist (part : Part) (fates : Entries Fate) :
    (namesIn part fates).Sublist fates.names := List.filter_sublist.map _

theorem mem_namesIn {part : Part} {fates : Entries Fate} :
    id ∈ namesIn part fates ↔ ∃ fate, (id, fate) ∈ fates ∧ fate.part = part := by
  simp [namesIn, Entries.names]

theorem namesIn_cons (part : Part) (id : String) (fate : Fate) (fates : Entries Fate) :
    namesIn part ((id, fate) :: fates) =
      if fate.part = part then id :: namesIn part fates else namesIn part fates := by
  by_cases h : fate.part = part <;> simp [namesIn, Entries.names, h]

/-- Every answer comes into one part. -/
theorem parts_perm (fates : Entries Fate) :
    (namesIn .accepted fates ++ namesIn .unchanged fates ++ namesIn .conflicts fates ++
      namesIn .errors fates ++ namesIn .overlooked fates).Perm fates.names := by
  induction fates with
  | nil => exact .refl _
  | cons fate fates ih =>
      rw [List.perm_iff_count] at ih ⊢
      intro name
      have hrest := ih name
      simp only [List.count_append, namesIn, Entries.names, List.filter_cons, List.map_cons,
        List.count_cons] at hrest ⊢
      cases fate.2.part <;> simp [List.count_cons] <;> omega

theorem names_reported {β : Type} {tell : Fate → Option β} {part : Part}
    (h : ∀ fate, (tell fate).isSome = decide (fate.part = part)) (fates : Entries Fate) :
    (reported tell fates).names = namesIn part fates := by
  induction fates with
  | nil => rfl
  | cons fate fates ih =>
      have hfate := h fate.2
      rw [reported, List.filterMap_cons, namesIn, List.filter_cons, ← hfate]
      cases tell fate.2 with
      | none => exact ih
      | some x => exact congrArg (fate.1 :: ·) ih

theorem isSome_conflict? (fate : Fate) :
    fate.conflict?.isSome = decide (fate.part = .conflicts) := by
  rcases fate with _ | _ | _ | _ | _ | _ <;> rfl

theorem isSome_error? (fate : Fate) : fate.error?.isSome = decide (fate.part = .errors) := by
  rcases fate with _ | _ | _ | _ | _ | _ <;> rfl

/-! ### One answer -/

/-- What an answer meets, and what it leaves. -/
inductive Meets (store : AnswerStore σ) (link : Json) (s : FillSession) (outside : σ) (id : String)
    (value : Json) : Fate → FillSession × σ → Prop
  | unchanged (h : s.hasAnswer id value = true) :
      Meets store link s outside id value .unchanged (s, outside)
  | overlooked (h : s.hasAnswer id value = false) (htakes : s.Takes (.str id))
      (hlocked : s.isLocked = true) :
      Meets store link s outside id value .overlooked (s, outside)
  | asked {p : Presentation} {outcome : SaveOutcome} {now : σ}
      (h : s.hasAnswer id value = false) (hasks : s.Asks (.str id) p)
      (hsave : (store.save link (.str id) value (s.version (.str id))).run outside =
        (.ok outcome, now)) :
      Meets store link s outside id value (.asked outcome)
        ((s.applyAnswer p (.str id) value).record (.str id) outcome, now)

/-- A session that answers can be imported into: it is loaded, and nothing is known yet of their
fields, which have distinct names. -/
structure Awaits (s : FillSession) (answers : Entries Json) : Prop where
  loaded : s.presentation.isSome = true
  distinct : answers.names.Nodup
  named : ∀ id ∈ answers.names, id ≠ ""
  unblocked : ∀ id ∈ answers.names, s.conflicts.get? (.str id) = none
  clear : ∀ id ∈ answers.names, s.errors.get? (.str id) = none

theorem Awaits.takes (h : s.Awaits ((id, value) :: answers)) : s.Takes (.str id) :=
  ⟨h.loaded, decide_eq_true (h.named id List.mem_cons_self), rfl⟩

theorem Awaits.tail (h : s.Awaits ((id, value) :: answers)) : s.Awaits answers where
  loaded := h.loaded
  distinct := (List.nodup_cons.mp h.distinct).2
  named other hother := h.named other (List.mem_cons_of_mem _ hother)
  unblocked other hother := h.unblocked other (List.mem_cons_of_mem _ hother)
  clear other hother := h.clear other (List.mem_cons_of_mem _ hother)

theorem Awaits.ne_of_mem (h : s.Awaits ((id, value) :: answers)) {other : String}
    (hother : other ∈ answers.names) : other ≠ id :=
  fun heq => (List.nodup_cons.mp h.distinct).1 (heq ▸ hother)

theorem Awaits.asks (h : s.Awaits ((id, value) :: answers)) (hopened : s.isLocked = false) :
    ∃ p, s.Asks (.str id) p := by
  obtain ⟨p, hp⟩ := Option.isSome_iff_exists.mp h.loaded
  have hunblocked : s.conflicts.has (.str id) = false := by
    rw [Fields.has, h.unblocked id List.mem_cons_self]
    rfl
  exact ⟨p, hp, h.takes.named, rfl, hopened, hunblocked⟩

/-- Every answer meets some fate. -/
theorem Awaits.meets (h : s.Awaits ((id, value) :: answers)) (hstore : store.Concludes)
    (link : Json) (outside : σ) :
    ∃ fate both, Meets store link s outside id value fate both := by
  cases hhas : s.hasAnswer id value with
  | true => exact ⟨_, _, .unchanged hhas⟩
  | false =>
  cases hlocked : s.isLocked with
  | true => exact ⟨_, _, .overlooked hhas h.takes hlocked⟩
  | false =>
      obtain ⟨p, hasks⟩ := h.asks hlocked
      obtain ⟨outcome, houtcome⟩ := hstore link (.str id) value (s.version (.str id)) outside
      exact ⟨_, _, .asked hhas hasks (Prod.ext houtcome rfl)⟩

/-- What an answer leaves alone: the fields with other names. -/
structure Apart (id : String) (s s' : FillSession) : Prop where
  loaded : s.presentation.isSome = true → s'.presentation.isSome = true
  answers : ∀ other, other ≠ id → s'.answers.get? (.str other) = s.answers.get? (.str other)
  conflicts : ∀ other, other ≠ id → s'.conflicts.get? (.str other) = s.conflicts.get? (.str other)
  errors : ∀ other, other ≠ id → s'.errors.get? (.str other) = s.errors.get? (.str other)

/-- The answers that come after one are awaited still. -/
theorem Apart.awaits (h : Apart id s s') (hs : s.Awaits ((id, value) :: answers)) :
    s'.Awaits answers := by
  have hrest := hs.tail
  constructor
  case loaded => exact h.loaded hrest.loaded
  case distinct => exact hrest.distinct
  case named => exact hrest.named
  case unblocked =>
    intro other hother
    rw [h.conflicts other (hs.ne_of_mem hother)]
    exact hrest.unblocked other hother
  case clear =>
    intro other hother
    rw [h.errors other (hs.ne_of_mem hother)]
    exact hrest.clear other hother

theorem apart_record (p : Presentation) (s : FillSession) (id : String) (value : Json)
    (outcome : SaveOutcome) :
    Apart id s ((s.applyAnswer p (.str id) value).record (.str id) outcome) := by
  have hset {α : Type} (fs : Fields α) (v : α) : ∀ other, other ≠ id →
      (fs.set (.str id) v).get? (.str other) = fs.get? (.str other) :=
    fun other hne => by rw [Fields.get?_set_str, if_neg hne]
  cases outcome with
  | accepted version updatedAt =>
      exact ⟨fun _ => rfl, hset _ _, fun _ _ => rfl, fun _ hne => Fields.get?_erase_str _ hne⟩
  | conflict c => exact ⟨fun _ => rfl, hset _ _, hset _ _, fun _ _ => rfl⟩
  | rejected reason message => exact ⟨fun _ => rfl, hset _ _, fun _ _ => rfl, hset _ _⟩
  | failed error => exact ⟨fun _ => rfl, hset _ _, fun _ _ => rfl, hset _ _⟩

namespace Meets

variable {fate : Fate}

theorem apart (h : Meets store link s outside id value fate (s', now)) : Apart id s s' := by
  cases h with
  | unchanged | overlooked => exact ⟨fun h => h, fun _ _ => rfl, fun _ _ => rfl, fun _ _ => rfl⟩
  | asked => exact apart_record _ _ _ _ _

theorem awaits (h : Meets store link s outside id value fate (s', now))
    (hs : s.Awaits ((id, value) :: answers)) : s'.Awaits answers :=
  h.apart.awaits hs

/-- An answer leaves a conflict or an error behind where its fate tells of one. -/
theorem kept (h : Meets store link s outside id value fate (s', now))
    (hunblocked : s.conflicts.get? (.str id) = none) (hclear : s.errors.get? (.str id) = none) :
    s'.conflicts = s.conflicts ++ .ofEntries (reported Fate.conflict? [(id, fate)]) ∧
      s'.errors = s.errors ++ .ofEntries (reported Fate.error? [(id, fate)]) := by
  cases h with
  | unchanged | overlooked => exact ⟨(List.append_nil _).symm, (List.append_nil _).symm⟩
  | @asked _ outcome =>
      cases outcome with
      | accepted version updatedAt =>
          refine ⟨(List.append_nil _).symm, ?_⟩
          exact (Fields.erase_of_get?_eq_none hclear).trans (List.append_nil _).symm
      | conflict c =>
          exact ⟨Fields.set_of_get?_eq_none hunblocked c, (List.append_nil _).symm⟩
      | rejected reason message =>
          exact ⟨(List.append_nil _).symm, Fields.set_of_get?_eq_none hclear _⟩
      | failed error => exact ⟨(List.append_nil _).symm, Fields.set_of_get?_eq_none hclear _⟩

end Meets

/-! ### All answers -/

/-- What answers meet, one after the other, and what they leave. -/
inductive Gives (store : AnswerStore σ) (link : Json) :
    FillSession × σ → Entries Json → Entries Fate → FillSession × σ → Prop
  | nil (both : FillSession × σ) : Gives store link both [] [] both
  | cons {s : FillSession} {outside : σ} {id : String} {value : Json} {fate : Fate}
      {both last : FillSession × σ} {answers : Entries Json} {fates : Entries Fate}
      (h : Meets store link s outside id value fate both)
      (hrest : Gives store link both answers fates last) :
      Gives store link (s, outside) ((id, value) :: answers) ((id, fate) :: fates) last

theorem Awaits.gives (h : s.Awaits answers) (hstore : store.Concludes) (link : Json)
    (outside : σ) : ∃ fates last, Gives store link (s, outside) answers fates last := by
  induction answers generalizing s outside with
  | nil => exact ⟨[], _, .nil _⟩
  | cons answer answers ih =>
      obtain ⟨id, value⟩ := answer
      obtain ⟨fate, ⟨s', now⟩, hmeets⟩ := h.meets hstore link outside
      obtain ⟨fates, last, hrest⟩ := ih (hmeets.awaits h) now
      exact ⟨_, _, .cons hmeets hrest⟩

namespace Gives

variable {both last : FillSession × σ} {fates : Entries Fate}

theorem names (h : Gives store link both answers fates last) : fates.names = answers.names := by
  induction h with
  | nil both => rfl
  | cons hmeets hrest ih => exact congrArg (_ :: ·) ih

theorem loaded (h : Gives store link both answers fates last)
    (hloaded : both.1.presentation.isSome = true) : last.1.presentation.isSome = true := by
  induction h with
  | nil both => exact hloaded
  | cons hmeets hrest ih => exact ih (hmeets.apart.loaded hloaded)

/-- An answer is not touched by those to other questions. -/
theorem answer_eq (h : Gives store link both answers fates last) (hid : id ∉ answers.names) :
    last.1.answers.get? (.str id) = both.1.answers.get? (.str id) := by
  induction h with
  | nil both => rfl
  | @cons _ _ name _ _ _ _ _ _ hmeets hrest ih =>
      obtain ⟨hne, hrest⟩ := not_or.mp (mt List.mem_cons.mpr hid)
      rw [ih hrest, hmeets.apart.answers id hne]

/-- The conflicts and errors that are left are those of which the fates tell. -/
theorem kept (h : Gives store link both answers fates last) (hs : both.1.Awaits answers) :
    last.1.conflicts = both.1.conflicts ++ .ofEntries (reported Fate.conflict? fates) ∧
      last.1.errors = both.1.errors ++ .ofEntries (reported Fate.error? fates) := by
  induction h with
  | nil both => exact ⟨(List.append_nil _).symm, (List.append_nil _).symm⟩
  | @cons s outside id value fate both last answers fates hmeets hrest ih =>
      have hsplit {β : Type} (tell : Fate → Option β) :
          (Fields.ofEntries (reported tell ((id, fate) :: fates)) : Fields β) =
            .ofEntries (reported tell [(id, fate)]) ++ .ofEntries (reported tell fates) := by
        rw [reported, reported, reported, Fields.ofEntries, Fields.ofEntries, Fields.ofEntries,
          ← List.map_append, ← List.filterMap_append, List.singleton_append]
      obtain ⟨hconflicts, herrors⟩ := hmeets.kept (hs.unblocked id List.mem_cons_self)
        (hs.clear id List.mem_cons_self)
      obtain ⟨hconflicts', herrors'⟩ := ih (hmeets.awaits hs)
      rw [hconflicts', hconflicts, herrors', herrors, hsplit, hsplit, List.append_assoc,
        List.append_assoc]
      exact ⟨rfl, rfl⟩

/-- **The import's loop sorts out what was accepted and what was there already.** -/
theorem run_setAll (h : Gives store link both answers fates last) :
    (setAll store link answers).run both =
      (.ok ⟨namesIn .accepted fates, namesIn .unchanged fates⟩, last) := by
  induction h with
  | nil both => rfl
  | @cons s outside id value fate both last answers fates hmeets hrest ih =>
      rw [setAll, Attempt.run_bind, Attempt.run_get, Attempt.andThen_ok]
      cases hmeets with
      | unchanged hhas =>
          simp only [hhas, if_true, Attempt.run_bind, ih, Attempt.andThen_ok, Attempt.run_pure]
          rfl
      | overlooked hhas htakes hlocked =>
          have hasks : ¬∃ p, s.Asks (.str id) p := fun ⟨p, hp⟩ => by
            have hopened := hp.opened
            rw [hlocked] at hopened
            cases hopened
          obtain ⟨reason, message, hrun⟩ := htakes.rejects hasks store link value outside
          simp only [hhas, Bool.false_eq_true, if_false, Attempt.run_bind, hrun,
            Attempt.andThen_ok, ih]
          rfl
      | @asked p outcome now hhas hasks hsave =>
          have hrun : (setAnswer store link (.str id) value).run (s, outside) = _ :=
            run_setAnswer_of_asks hasks outside
          rw [hsave] at hrun
          simp only [hhas, Bool.false_eq_true, if_false, Attempt.run_bind, hrun,
            Attempt.andThen_ok, ih]
          cases outcome <;> rfl

/-! ### Some of the answers -/

/-- What the first answers meet does not depend on those behind them. -/
theorem split (h : Gives store link both (before ++ later) fates last) :
    ∃ first rest mid, fates = first ++ rest ∧ Gives store link both before first mid ∧
      Gives store link mid later rest last := by
  induction before generalizing both fates with
  | nil => exact ⟨[], fates, both, rfl, .nil _, h⟩
  | cons answer before ih =>
      cases h with
      | cons hmeets hrest =>
          obtain ⟨first, rest, mid, rfl, hfirst, hlast⟩ := ih hrest
          exact ⟨_ :: first, rest, mid, rfl, .cons hmeets hfirst, hlast⟩

/-- The turn of an answer with a fate. -/
theorem turn (h : Gives store link both answers fates last) {fate : Fate}
    (hmem : (id, fate) ∈ fates) :
    ∃ before value later first mid after, answers = before ++ (id, value) :: later ∧
      Gives store link both before first mid ∧
      Meets store link mid.1 mid.2 id value fate after := by
  induction h with
  | nil both => cases hmem
  | @cons s outside name value fate' both last answers fates hmeets hrest ih =>
      rcases List.mem_cons.mp hmem with heq | hmem
      · obtain ⟨rfl, rfl⟩ := Prod.mk.inj heq
        exact ⟨[], value, answers, [], _, _, rfl, .nil _, hmeets⟩
      · obtain ⟨before, found, later, first, mid, after, rfl, hfirst, hturn⟩ := ih hmem
        exact ⟨(name, value) :: before, found, later, _, mid, after, rfl, .cons hmeets hfirst,
          hturn⟩

/-- Every answer has a turn. -/
theorem exists_fate (h : Gives store link both (before ++ (id, value) :: later) fates last) :
    ∃ fate first mid after, (id, fate) ∈ fates ∧ Gives store link both before first mid ∧
      Meets store link mid.1 mid.2 id value fate after := by
  obtain ⟨first, rest, mid, rfl, hfirst, hlast⟩ := h.split
  cases hlast with
  | cons hmeets hrest =>
      exact ⟨_, first, _, _, List.mem_append_right _ List.mem_cons_self, hfirst, hmeets⟩

end Gives

/-! ### What the store was asked -/

section Noting

variable {log : List Asked} {fate : Fate} {both last : FillSession × σ × List Asked}
  {fates : Entries Fate}

/-- A save of the answer was asked for, and ended so. -/
def SavedAs (id : String) (outcome : SaveOutcome) (log : List Asked) : Prop :=
  ∃ value version, Asked.saved (.str id) value version (.ok outcome) ∈ log

/-- What an answer meets is the same when the store is listened to. -/
theorem Meets.unheard (h : Meets store.noting link s (outside, log) id value fate both) :
    Meets store link s outside id value fate (unheard both) := by
  cases h with
  | unchanged hhas => exact .unchanged hhas
  | overlooked hhas htakes hlocked => exact .overlooked hhas htakes hlocked
  | asked hhas hasks hsave =>
      obtain ⟨houtcome, rfl⟩ := Prod.mk.inj hsave
      exact .asked hhas hasks (Prod.ext houtcome rfl)

theorem Meets.tracks (h : Meets store.noting link s (outside, log) id value fate both)
    (hs : Tracks s log) : Tracks both.1 both.2.2 := by
  cases h with
  | unchanged | overlooked => exact hs
  | asked hhas hasks hsave =>
      rw [snd_of_noted hsave]
      exact (hs.of_alike (hasks.alike _)).record rfl _ _ _

/-- The notes tell what the store was asked for, and nothing else. -/
theorem Meets.savedAs_iff (h : Meets store.noting link s (outside, log) id value fate both)
    {name : String} {outcome : SaveOutcome} :
    SavedAs name outcome both.2.2 ↔
      (name, .asked outcome) = (id, fate) ∨ SavedAs name outcome log := by
  cases h with
  | unchanged | overlooked => simp
  | asked hhas hasks hsave =>
      rw [snd_of_noted hsave]
      simp only [SavedAs, List.mem_cons, Asked.saved.injEq, Json.str.injEq, Except.ok.injEq,
        Prod.mk.injEq, Fate.asked.injEq]
      constructor
      · rintro ⟨v, n, ⟨rfl, -, -, rfl⟩ | hmem⟩
        · exact Or.inl ⟨rfl, rfl⟩
        · exact Or.inr ⟨v, n, hmem⟩
      · rintro (⟨rfl, rfl⟩ | ⟨v, n, hmem⟩)
        · exact ⟨_, _, Or.inl ⟨rfl, rfl, rfl, rfl⟩⟩
        · exact ⟨v, n, Or.inr hmem⟩

theorem Gives.unheard (h : Gives store.noting link both answers fates last) :
    Gives store link (unheard both) answers fates (FillSession.unheard last) := by
  induction h with
  | nil both => exact .nil _
  | cons hmeets hrest ih => exact .cons hmeets.unheard ih

theorem Gives.tracks (h : Gives store.noting link both answers fates last)
    (hs : Tracks both.1 both.2.2) : Tracks last.1 last.2.2 := by
  induction h with
  | nil both => exact hs
  | cons hmeets hrest ih => exact ih (hmeets.tracks hs)

theorem Gives.savedAs_iff (h : Gives store.noting link both answers fates last) {name : String}
    {outcome : SaveOutcome} :
    SavedAs name outcome last.2.2 ↔
      (name, .asked outcome) ∈ fates ∨ SavedAs name outcome both.2.2 := by
  induction h with
  | nil both => simp
  | cons hmeets hrest ih =>
      rw [ih, hmeets.savedAs_iff, List.mem_cons, or_left_comm, or_assoc]

end Noting

/-! ### The report -/

/-- Texts are sorted among themselves. -/
theorem sorted_texts (names : List String) :
    ∃ sorted, Json.sorted (names.map .str) = .ok sorted ∧ sorted.Perm (names.map .str) := by
  have htexts : (names.map Json.str).filterMap Json.str? = names := by
    rw [List.filterMap_map]
    exact List.filterMap_some
  refine ⟨_, ?_, (List.mergeSort_perm names (· ≤ ·)).map Json.str⟩
  rw [Json.sorted, htexts, List.length_map, if_pos rfl]

/-- **What an import reports, by the fates of its answers.** -/
theorem Gives.run_import {payload : Json} {last : FillSession × σ} {fates : Entries Fate}
    (h : Gives store link (s, now) answers fates last)
    (hfetch : (store.fetch link).run outside = (.ok payload, now))
    (hseed : (seed payload).run {} = (.ok (), s)) (hs : s.Awaits answers)
    (hconflicts : s.conflicts = []) (herrors : s.errors = []) :
    ∃ report, (importAnswers store link (.obj answers) false).run outside =
        (.ok report, last.2) ∧
      report.accepted = namesIn .accepted fates ∧ report.unchanged = namesIn .unchanged fates ∧
      report.conflicts.Perm ((namesIn .conflicts fates).map .str) ∧
      report.errors.names = namesIn .errors fates := by
  have hload : (load store link).run ({}, outside) = (.ok (), (s, now)) := by
    rw [run_load, hfetch]
    simp only [hseed]
  obtain ⟨hkept, hkept'⟩ := h.kept hs
  rw [hconflicts, List.nil_append] at hkept
  rw [herrors, List.nil_append] at hkept'
  have hids : last.1.conflicts.ids = (namesIn .conflicts fates).map .str := by
    rw [hkept, ← names_reported isSome_conflict?, Fields.ids, Fields.ofEntries, Entries.names,
      List.map_map, List.map_map]
    rfl
  have hwords : last.1.errors.inWords = reported Fate.error? fates := by
    rw [hkept']
    refine Fields.inWords_ofEntries ?_
    rw [names_reported isSome_error?]
    exact (namesIn_sublist _ _).nodup (h.names ▸ hs.distinct)
  obtain ⟨sorted, hsorted, hperm⟩ := sorted_texts (namesIn .conflicts fates)
  have hconflicted : last.1.conflictedIds.mapError Failure.misfit = .ok sorted := by
    rw [conflictedIds, hids, hsorted]
    rfl
  obtain ⟨p, hp⟩ := Option.isSome_iff_exists.mp (h.loaded hs.loaded)
  have hprogress : last.1.progress = .ok (p.progress last.1.answers.named) := by
    rw [progress, presented, hp]
    rfl
  let report : ImportReport := {
    instanceId := last.1.instanceId
    accepted := namesIn .accepted fates
    unchanged := namesIn .unchanged fates
    conflicts := sorted
    errors := last.1.errors.inWords
    progress := p.progress last.1.answers.named
    submitted := false }
  have hreplay : (replay store link answers false).run ({}, outside) = (.ok report, last) := by
    simp only [replay, Attempt.run_bind, hload, Attempt.andThen_ok, h.run_setAll, submitIf,
      Attempt.run_get, Bool.false_and, Bool.false_eq_true, if_false, Attempt.run_pure,
      Attempt.run_fit, hconflicted, Attempt.run_lift, hprogress]
    rfl
  have hnames : report.errors.names = namesIn .errors fates := by
    show last.1.errors.inWords.names = _
    rw [hwords, names_reported isSome_error?]
  exact ⟨report, congrArg (fun reached => (reached.1, reached.2.2)) hreplay, rfl, rfl, hperm,
    hnames⟩

/-- The answer is what the fetched value has for the question; null where it has none. -/
def IsAnswered (payload : Json) (id : String) (value : Json) : Prop :=
  ∃ records, recordsOf payload = .ok records ∧
    Json.sameAs (Entries.get? (Answers.flatten records) id) value = true

/-- A new session into which a fetched value was loaded. -/
structure Loads (payload : Json) (s : FillSession) : Prop where
  seeded : (seed payload).run {} = (.ok (), s)
  loaded : s.presentation.isSome = true
  conflicts : s.conflicts = []
  errors : s.errors = []
  hasAnswer : ∀ id value, s.hasAnswer id value = true ↔ IsAnswered payload id value

section Import

variable {payload : Json}

/-- A value that a new session takes over is loaded. -/
theorem loads_of_seed (h : (seed payload).run {} = (.ok (), s)) : Loads payload s := by
  have hseeds := seeds payload {}
  rw [h] at hseeds
  cases hseeds with
  | @completed document records versions hobject hdocument hrecords hversions =>
      refine ⟨h, rfl, rfl, rfl, fun id value => ?_⟩
      show Json.sameAs ((Fields.ofEntries (Answers.flatten records)).get? (.str id)) value = true
        ↔ _
      rw [Fields.get?_ofEntries]
      constructor
      · exact fun hsame => ⟨records, hrecords, hsame⟩
      · rintro ⟨records', hrecords', hsame⟩
        obtain rfl := Except.ok.inj (hrecords.symm.trans hrecords')
        exact hsame

theorem exists_loads (h : (seededBy payload).isSome = true) : ∃ s, Loads payload s := by
  have hseeds := seeds payload {}
  generalize hreached : (seed payload).run {} = reached at hseeds
  cases hseeds with
  | noObject hobject => simp [seededBy, hobject] at h
  | noDocument hobject hdocument => simp [seededBy, hobject, hdocument] at h
  | noRecords hobject hdocument hrecords => simp [seededBy, hobject, hdocument, hrecords] at h
  | noVersions hobject hdocument hrecords hversions =>
      have hnone : (versionsOf _).toOption = none := congrArg Except.toOption hversions
      simp [seededBy, hobject, hdocument, hrecords, hnone] at h
  | completed => exact ⟨_, loads_of_seed hreached⟩

theorem Loads.awaits (h : Loads payload s) (hdistinct : answers.names.Nodup)
    (hnamed : ∀ id ∈ answers.names, id ≠ "") : s.Awaits answers where
  loaded := h.loaded
  distinct := hdistinct
  named := hnamed
  unblocked := fun _ _ => by rw [h.conflicts]; rfl
  clear := fun _ _ => by rw [h.errors]; rfl

theorem Loads.tracks (h : Loads payload s) : Tracks s [.fetched (.ok payload)] := by
  have htracks := tracks_start.seed payload
  rwa [h.seeded] at htracks

/-- What an import asks of the store, the latest request first. -/
def importing (store : AnswerStore σ) (link : Json) (answers : Entries Json) (outside : σ) :
    List Asked :=
  ((importAnswers store.noting link (.obj answers) false).run (outside, [])).2.2

variable {last : FillSession × σ × List Asked} {fates : Entries Fate}

theorem Gives.importing_eq
    (h : Gives store.noting link (s, (now, [.fetched (.ok payload)])) answers fates last)
    (hfetch : (store.fetch link).run outside = (.ok payload, now)) (hs : Loads payload s)
    (hawaits : s.Awaits answers) : importing store link answers outside = last.2.2 := by
  have hfetch' : (store.noting.fetch link).run (outside, []) =
      (.ok payload, (now, [.fetched (.ok payload)])) := by
    exact congrArg (fun reached => (reached.1, (reached.2, [Asked.fetched reached.1]))) hfetch
  obtain ⟨report, hrun, -⟩ := h.run_import hfetch' hs.seeded hawaits hs.conflicts hs.errors
  rw [importing, hrun]

/-- When the turn of an answer comes, the session has for the question what was loaded, and knows of
a lock just if the notes tell of one. -/
theorem Gives.at_turn
    (h : Gives store.noting link (s, (now, [.fetched (.ok payload)])) before fates last)
    (hfetch : (store.fetch link).run outside = (.ok payload, now)) (hs : Loads payload s)
    (hawaits : s.Awaits (before ++ (id, value) :: later)) :
    (last.1.hasAnswer id value = true ↔ IsAnswered payload id value) ∧
      (last.1.isLocked = true ↔ Locked (importing store link before outside)) := by
  have hnames : Entries.names (before ++ (id, value) :: later) =
      before.names ++ id :: Entries.names later := List.map_append
  have hdistinct := hawaits.distinct
  have hnamed := hawaits.named
  rw [hnames] at hdistinct hnamed
  obtain ⟨hnodup, -, hdisjoint⟩ := List.nodup_append.mp hdistinct
  have hid : id ∉ before.names := fun hmem => hdisjoint id hmem id List.mem_cons_self rfl
  constructor
  · rw [← hs.hasAnswer, hasAnswer, h.answer_eq hid, hasAnswer]
  · rw [h.importing_eq hfetch hs (hs.awaits hnodup fun other hother =>
      hnamed other (List.mem_append_left _ hother))]
    exact (h.tracks hs.tracks).locked

/-- An answer is overlooked where the questionnaire was found locked before its turn, and does not
have it. -/
theorem Gives.overlooked_iff
    (h : Gives store.noting link (s, (now, [.fetched (.ok payload)])) answers fates last)
    (hfetch : (store.fetch link).run outside = (.ok payload, now)) (hs : Loads payload s)
    (hawaits : s.Awaits answers) :
    id ∈ namesIn .overlooked fates ↔ ∃ before value later,
      answers = before ++ (id, value) :: later ∧ ¬IsAnswered payload id value ∧
        Locked (importing store link before outside) := by
  rw [mem_namesIn]
  constructor
  · rintro ⟨fate, hmem, hpart⟩
    obtain ⟨before, value, later, first, mid, after, rfl, hfirst, hmeets⟩ := h.turn hmem
    obtain ⟨hhas, hlocked⟩ := hfirst.at_turn hfetch hs hawaits
    cases hmeets with
    | overlooked hnot _ hlock =>
        refine ⟨before, value, later, rfl, fun hanswered => ?_, hlocked.mp hlock⟩
        rw [hhas.mpr hanswered] at hnot
        cases hnot
    | unchanged => cases hpart
    | @asked p outcome => cases outcome <;> cases hpart
  · rintro ⟨before, value, later, rfl, hnot, hlock⟩
    obtain ⟨fate, first, mid, after, hmem, hfirst, hmeets⟩ := h.exists_fate
    obtain ⟨hhas, hlocked⟩ := hfirst.at_turn hfetch hs hawaits
    refine ⟨fate, hmem, ?_⟩
    cases hmeets with
    | overlooked => rfl
    | unchanged hanswered => exact absurd (hhas.mp hanswered) hnot
    | asked _ hasks _ =>
        have hopened := hasks.opened
        rw [hlocked.mpr hlock] at hopened
        cases hopened

/-- An answer is unchanged where the questionnaire had it. -/
theorem Gives.unchanged_iff
    (h : Gives store.noting link (s, (now, [.fetched (.ok payload)])) answers fates last)
    (hfetch : (store.fetch link).run outside = (.ok payload, now)) (hs : Loads payload s)
    (hawaits : s.Awaits answers) :
    id ∈ namesIn .unchanged fates ↔
      ∃ value, (id, value) ∈ answers ∧ IsAnswered payload id value := by
  rw [mem_namesIn]
  constructor
  · rintro ⟨fate, hmem, hpart⟩
    obtain ⟨before, value, later, first, mid, after, rfl, hfirst, hmeets⟩ := h.turn hmem
    obtain ⟨hhas, -⟩ := hfirst.at_turn hfetch hs hawaits
    cases hmeets with
    | unchanged hanswered =>
        exact ⟨value, List.mem_append_right _ List.mem_cons_self, hhas.mp hanswered⟩
    | overlooked => cases hpart
    | @asked p outcome => cases outcome <;> cases hpart
  · rintro ⟨value, hmem, hanswered⟩
    obtain ⟨before, later, rfl⟩ := List.append_of_mem hmem
    obtain ⟨fate, first, mid, after, hmem, hfirst, hmeets⟩ := h.exists_fate
    obtain ⟨hhas, -⟩ := hfirst.at_turn hfetch hs hawaits
    refine ⟨fate, hmem, ?_⟩
    cases hmeets with
    | unchanged => rfl
    | overlooked hnot _ _ | asked hnot _ _ =>
        rw [hhas.mpr hanswered] at hnot
        cases hnot

/-- The answers whose saves ended in some way make up a part. -/
theorem Gives.saved_iff
    (h : Gives store.noting link (s, (now, [.fetched (.ok payload)])) answers fates last)
    {ι : Type} {part : Part} {outcome : ι → SaveOutcome}
    (hpart : ∀ fate : Fate, fate.part = part ↔ ∃ i, fate = .asked (outcome i)) :
    id ∈ namesIn part fates ↔ ∃ i, SavedAs id (outcome i) last.2.2 := by
  rw [mem_namesIn]
  constructor
  · rintro ⟨fate, hmem, hfate⟩
    obtain ⟨i, rfl⟩ := (hpart fate).mp hfate
    exact ⟨i, h.savedAs_iff.mpr (Or.inl hmem)⟩
  · rintro ⟨i, hsaved⟩
    rcases h.savedAs_iff.mp hsaved with hmem | ⟨value, version, hmem⟩
    · exact ⟨_, hmem, (hpart _).mpr ⟨i, rfl⟩⟩
    · cases List.mem_singleton.mp hmem

theorem Fate.part_eq_accepted_iff (fate : Fate) :
    fate.part = .accepted ↔ ∃ told : Json × Json, fate = .asked (.accepted told.1 told.2) := by
  rcases fate with _ | _ | _ | _ | _ | _ <;> simp [part]

theorem Fate.part_eq_conflicts_iff (fate : Fate) :
    fate.part = .conflicts ↔ ∃ c, fate = .asked (.conflict c) := by
  rcases fate with _ | _ | _ | _ | _ | _ <;> simp [part]

/-- **The report of an import accounts for every answer, save for those that it overlooks.**  Let
the store give a value that can be loaded, and let its saves have outcomes.  Then the answers, which
have distinct names, are reported, each of them once: those that the store accepted and those that
were there already in their order, those of which it has a newer version, and those that it refused
or that did not get through.  Left out are the answers whose turn comes after the questionnaire was
found locked, when it was loaded or by an earlier answer, and which it does not have. -/
theorem import_accounts (hstore : store.Concludes)
    (hfetch : ((store.fetch link).run outside).1 = .ok payload)
    (hloads : (seededBy payload).isSome = true) (hdistinct : answers.names.Nodup)
    (hnamed : ∀ id ∈ answers.names, id ≠ "") :
    let log := importing store link answers outside
    ∃ (report : ImportReport) (overlooked : List String),
      ((importAnswers store link (.obj answers) false).run outside).1 = .ok report ∧
      (report.accepted.map Json.str ++ report.unchanged.map Json.str ++ report.conflicts ++
        report.errors.names.map Json.str ++ overlooked.map Json.str).Perm
          (answers.names.map Json.str) ∧
      report.accepted.Sublist answers.names ∧ report.unchanged.Sublist answers.names ∧
      (∀ id, id ∈ report.accepted ↔
        ∃ version updatedAt, SavedAs id (.accepted version updatedAt) log) ∧
      (∀ id, id ∈ report.unchanged ↔
        ∃ value, (id, value) ∈ answers ∧ IsAnswered payload id value) ∧
      (∀ id, .str id ∈ report.conflicts ↔ ∃ c, SavedAs id (.conflict c) log) ∧
      ∀ id, id ∈ overlooked ↔ ∃ before value later,
        answers = before ++ (id, value) :: later ∧ ¬IsAnswered payload id value ∧
          Locked (importing store link before outside) := by
  intro log
  obtain ⟨s, hs⟩ := exists_loads hloads
  have hawaits : s.Awaits answers := hs.awaits hdistinct hnamed
  have hfetched : (store.fetch link).run outside =
      (.ok payload, ((store.fetch link).run outside).2) := Prod.ext hfetch rfl
  have hnoting : store.noting.Concludes := fun link id value version outside =>
    hstore link id value version outside.1
  obtain ⟨fates, last, hgives⟩ := hawaits.gives hnoting link
    (((store.fetch link).run outside).2, [.fetched (.ok payload)])
  have hlog : log = last.2.2 := hgives.importing_eq hfetched hs hawaits
  obtain ⟨report, hrun, haccepted, hunchanged, hconflicts, herrors⟩ :=
    hgives.unheard.run_import hfetched hs.seeded hawaits hs.conflicts hs.errors
  refine ⟨report, namesIn .overlooked fates, by rw [hrun], ?_, ?_, ?_, fun id => ?_, fun id => ?_,
    fun id => ?_, fun id => hgives.overlooked_iff hfetched hs hawaits⟩
  · rw [haccepted, hunchanged, herrors, ← hgives.names]
    refine .trans ?_ ((parts_perm fates).map Json.str)
    simp only [List.map_append]
    exact ((hconflicts.append_left _).append_right _).append_right _
  · rw [haccepted, ← hgives.names]
    exact namesIn_sublist _ _
  · rw [hunchanged, ← hgives.names]
    exact namesIn_sublist _ _
  · rw [haccepted, hlog, hgives.saved_iff Fate.part_eq_accepted_iff, Prod.exists]
  · rw [hunchanged]
    exact hgives.unchanged_iff hfetched hs hawaits
  · rw [hconflicts.mem_iff, hlog, ← hgives.saved_iff Fate.part_eq_conflicts_iff]
    simp

/-- A questionnaire with one answer. -/
def answered (locked : Bool) : Json :=
  .obj [("template_content", .obj [("items", .arr [])]), ("is_locked", .bool locked),
    ("answers", .obj [("a", .obj [("value", .str "x"), ("version", .int 1)])])]

/-- A place that accepts one save and is locked from then on. -/
def closing (locked : Bool) : AnswerStore Nat where
  fetch _ := pure (answered locked)
  save _ _ _ _ := fun saves =>
    (.ok (if saves = 0 then .accepted (.int 1) .null else .rejected .locked .null), saves + 1)
  submit _ := pure ()

theorem concludes_closing (locked : Bool) : (closing locked).Concludes :=
  fun _ _ _ _ _ => ⟨_, rfl⟩

/-- One answer is there, one is accepted, one meets the lock, and the last one is overlooked. -/
theorem import_accounts_closing :
    let answers : Entries Json :=
      [("a", .str "x"), ("b", .str "y"), ("c", .str "z"), ("d", .str "w")]
    (closing false).Concludes ∧
      (((closing false).fetch (.str "k")).run 0).1 = .ok (answered false) ∧
      (seededBy (answered false)).isSome = true ∧ answers.names.Nodup ∧
      (∀ id ∈ answers.names, id ≠ "") ∧
      ∃ (report : ImportReport) (overlooked : List String),
        ((importAnswers (closing false) (.str "k") (.obj answers) false).run 0).1 = .ok report ∧
        (report.accepted.map Json.str ++ report.unchanged.map Json.str ++ report.conflicts ++
          report.errors.names.map Json.str ++ overlooked.map Json.str).Perm
            (answers.names.map Json.str) ∧
        report.accepted = ["b"] ∧ report.unchanged = ["a"] ∧ report.errors.names = ["c"] ∧
        "d" ∈ overlooked := by
  intro answers
  have hloads : (seededBy (answered false)).isSome = true := by decide +kernel
  have hdistinct : answers.names.Nodup := by decide
  have hnamed : ∀ id ∈ answers.names, id ≠ "" := by decide
  have hparts : (((importAnswers (closing false) (.str "k") (.obj answers)
      false).run 0).1.toOption.map fun r => (r.accepted, r.unchanged, r.errors.names)) =
        some (["b"], ["a"], ["c"]) := by
    decide +kernel
  have hfetch : (((closing false).fetch (.str "k")).run 0).1 = .ok (answered false) := rfl
  obtain ⟨report, overlooked, hrun, hperm, -, -, -, -, -, hoverlooked⟩ :=
    import_accounts (concludes_closing false) hfetch hloads hdistinct hnamed
  rw [hrun] at hparts
  have hparts' := Option.some.inj hparts
  simp only [Prod.mk.injEq] at hparts'
  obtain ⟨haccepted, hunchanged, herrors⟩ := hparts'
  refine ⟨concludes_closing false, hfetch, hloads, hdistinct, hnamed, report, overlooked, hrun,
    hperm, haccepted, hunchanged, herrors, ?_⟩
  refine (hoverlooked "d").mpr
    ⟨[("a", .str "x"), ("b", .str "y"), ("c", .str "z")], .str "w", [], rfl, ?_, ?_⟩
  · rintro ⟨records, hrecords, hsame⟩
    obtain rfl := Except.ok.inj hrecords
    cases hsame
  · exact ⟨[], _, _, rfl, rfl, fun _ hf => nomatch hf⟩

/-- An answer to a questionnaire that is locked from the start is reported nowhere. -/
theorem unreported_when_locked :
    (closing true).Concludes ∧
      (((closing true).fetch (.str "k")).run 0).1 = .ok (answered true) ∧
      (seededBy (answered true)).isSome = true ∧
      ∃ report,
        ((importAnswers (closing true) (.str "k") (.obj [("q", .str "x")]) false).run 0).1 =
          .ok report ∧
        report.accepted = [] ∧ report.unchanged = [] ∧ report.conflicts = [] ∧
        report.errors = [] := by
  have hparts : (((importAnswers (closing true) (.str "k") (.obj [("q", .str "x")])
      false).run 0).1.toOption.map fun r => (r.accepted, r.unchanged, r.conflicts.length,
        r.errors.length)) = some ([], [], 0, 0) := by
    decide +kernel
  obtain ⟨report, hreport, hempty⟩ := Option.map_eq_some_iff.mp hparts
  simp only [Prod.mk.injEq, List.length_eq_zero_iff] at hempty
  exact ⟨concludes_closing true, rfl, by decide +kernel, report, eq_ok_of_toOption hreport, hempty⟩

end Import

end FillSession

end Questionnaire
