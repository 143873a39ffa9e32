/-
A submitted questionnaire is frozen.

Locking is one flag of the instance, and saving, submitting and deleting each look at it on their
own.  What they have in common is that they change an instance, or its answers, only after they
found it open; so an instance that is locked stays the same row with the same answers under every
change but an unlocking, `stable_frozen`.  It takes that no two instances share an id or a link
(`Tables.Sound`): what was found open is then another instance.

The parties take turns.  A turn is an operation as a whole, or an import, which saves one answer
after the other and perhaps submits.  A save that looked before the submission and writes after
it is no whole turn; such a late write may go through.
-/
import Questionnaire.Proofs.Fill.Import
import Questionnaire.Proofs.Service.Found
import Questionnaire.Proofs.Service.Run

namespace Questionnaire

namespace Service.Operation

/-- Whether nothing in the operation began before it. -/
def isWhole : Operation → Bool
  | .write w => !w.isLate
  | _ => true

/-- The operation unlocks an instance. -/
def Unlocks (i : Int) : Operation → Prop
  | .unlock key => Database.Names key i
  | _ => False

end Service.Operation

open Service (Operation)

namespace Tables

variable {t u : Tables} {row : Instance} {i : Int}

/-! ### What a change leaves alone -/

theorem mem_modifyInstance (hrow : row ∈ t.instances) (hother : row.id ≠ i)
    (f : Instance → Instance) : row ∈ (t.modifyInstance i f).instances :=
  List.mem_map.mpr ⟨row, hrow, if_neg hother⟩

theorem mem_dropInstance (hrow : row ∈ t.instances) (hother : row.id ≠ i) :
    row ∈ (t.dropInstance i).instances :=
  List.mem_filter.mpr ⟨hrow, decide_eq_true hother⟩

theorem answersOf_dropInstance {j : Int} (hother : j ≠ i) :
    (t.dropInstance i).answersOf j = t.answersOf j := by
  simp only [answersOf, dropInstance, List.filter_filter]
  refine List.filter_congr fun a _ => ?_
  by_cases hj : a.instanceId = j
  · simp [hj, hother]
  · simp [hj]

theorem answersOf_addAnswer {new a : StoredAnswer} {j : Int} (hother : j ≠ new.instanceId)
    (hadd : t.addAnswer new = .ok (a, u)) : u.answersOf j = t.answersOf j := by
  obtain ⟨-, ha, rfl⟩ := addAnswer_eq_ok hadd
  have howner : a.instanceId ≠ j := by
    rw [ha]
    exact hother.symm
  simp [answersOf, howner]

theorem answersOf_writeAnswer? {q : String} {value : Option String} {n : Int} {now : Moment}
    {j : Int} (hother : j ≠ i) (hwrite : t.writeAnswer? i q value n now = some u) :
    u.answersOf j = t.answersOf j := by
  let write (a : StoredAnswer) : StoredAnswer :=
    if isAnswerTo i q a && a.version.atMost n then renewed value now a else a
  have howner : ∀ a, (write a).instanceId = a.instanceId := by
    intro a
    simp only [write]
    split <;> rfl
  have hkept : ∀ a, a.instanceId = j → write a = a := by
    rintro a rfl
    have hkey : isAnswerTo i q a = false := by simp [isAnswerTo, hother]
    simp [write, hkey]
  rw [writeAnswer?_eq_map hwrite]
  show (t.answers.map write).filter _ = t.answers.filter _
  rw [List.filter_map, List.filter_congr fun a _ => by rw [Function.comp_apply, howner a]]
  refine (List.map_congr_left fun a ha => ?_).trans (List.map_id _)
  exact hkept a (of_decide_eq_true (List.mem_filter.mp ha).2)

/-! ### Locked instances -/

/-- An instance is there, and its answers are these. -/
structure Frozen (row : Instance) (answers : List StoredAnswer) (t : Tables) : Prop where
  sound : t.Sound
  kept : row ∈ t.instances
  answers : t.answersOf row.id = answers

/-- A locked instance stays as it is, with its answers, under every change but an unlocking of it
and a late write. -/
theorem stable_frozen {op : Operation} {answers : List StoredAnswer} (hlocked : row.isLocked = true)
    (hwhole : op.isWhole = true) (hunlock : ¬op.Unlocks row.id) :
    Stable op (Frozen row answers) := by
  intro t u h hstep
  have hsound := stable_sound op t u h.sound hstep
  obtain ⟨hold, hkept, hanswers⟩ := h
  cases hstep with
  | author hadd =>
      rw [addAdmin_eq_ok hadd] at hsound ⊢
      exact ⟨hsound, hkept, hanswers⟩
  | template hadd =>
      rw [addTemplate_eq_ok hadd] at hsound ⊢
      exact ⟨hsound, hkept, hanswers⟩
  | loggedIn | edited | archived | withoutTemplate => exact ⟨hsound, hkept, hanswers⟩
  | sent _ hadd =>
      obtain ⟨-, -, -, rfl⟩ := addInstance_eq_ok hadd
      exact ⟨hsound, List.mem_append_left _ hkept, hanswers⟩
  | submitted hfound hopened now =>
      have hother := hold.id_ne_of_opened hkept hlocked (mem_of_under hfound) hopened
      exact ⟨hsound, mem_modifyInstance hkept hother _, hanswers⟩
  | unlocked hfound =>
      obtain ⟨hnames, -⟩ := names_of_named hfound
      have hother : row.id ≠ _ := fun hid => hunlock (hid ▸ hnames)
      exact ⟨hsound, mem_modifyInstance hkept hother _, hanswers⟩
  | deleted hfound hopened _ =>
      have hother := hold.id_ne_of_opened hkept hlocked (names_of_named hfound).2 hopened
      exact ⟨hsound, mem_dropInstance hkept hother, (answersOf_dropInstance hother).trans hanswers⟩
  | first hin hadd =>
      have hother := hold.id_ne_of_opened hkept hlocked (mem_of_under hin.found) hin.opened
      have hsame := answersOf_addAnswer hother hadd
      obtain ⟨-, -, rfl⟩ := addAnswer_eq_ok hadd
      exact ⟨hsound, hkept, hsame.trans hanswers⟩
  | again hin hwrite =>
      have hother := hold.id_ne_of_opened hkept hlocked (mem_of_under hin.found) hin.opened
      have hsame := answersOf_writeAnswer? hother hwrite
      obtain ⟨hinstances, -⟩ := writeAnswer?_eq_some hwrite
      exact ⟨hsound, hinstances ▸ hkept, hsame.trans hanswers⟩
  | lateFirst hlate _ | lateAgain hlate _ _ => simp [Operation.isWhole, hlate] at hwhole

end Tables

namespace Service

/-! ### Turns -/

/-- What one party does in one go. -/
inductive Turn
  | event (event : Event)
  /-- Answers are imported, in a session of their own. -/
  | importing (link answers : Json) (submit : Bool)

/-- The operations that a turn may carry out. -/
inductive Turn.Carries : Turn → Operation → Prop
  | call (op : Operation) : Carries (.event (.call op)) op
  | save {importedTo answers : Json} {submit : Bool} (link id value version : Json) :
      Carries (.importing importedTo answers submit) (.write (.save link id value version))
  | submit {importedTo answers : Json} {submit : Bool} (link : Json) :
      Carries (.importing importedTo answers submit) (.submit link)

/-- The service after a turn. -/
def turn (s : Service) : Turn → Service
  | .event event => s.step event
  | .importing link answers submit => ((importAnswers store link answers submit).run s).2

/-- The service after turns. -/
def turns (s : Service) (turns : List Turn) : Service := turns.foldl turn s

variable {I : Tables → Prop} {s : Service}

/-- Imports do nothing but look, save and submit. -/
theorem guards_store
    (hsave : ∀ link id value version, Tables.Stable (.write (.save link id value version)) I)
    (hsubmit : ∀ link, Tables.Stable (.submit link) I) : store.Guards (Lasting I) where
  fetch link s hs := by
    show Lasting I ((respondent link).run s).2
    rw [run_respondent]
    exact hs
  save link id value version s hs :=
    (ends_save link id value version s).lasting (hsave link id value version) hs
  submit link := keeps_forget fun s hs => (ends_submit link s).lasting (hsubmit link) hs

theorem Lasting.turn {turn : Turn} (h : Lasting I s)
    (hI : ∀ op, turn.Carries op → Tables.Stable op I) : Lasting I (s.turn turn) := by
  cases turn with
  | event event =>
      refine h.step fun op hcall => ?_
      rw [hcall] at hI
      exact hI op (.call op)
  | importing link answers submit =>
      have hguards : store.Guards (Lasting I) :=
        guards_store (fun link id value version => hI _ (.save link id value version))
          fun link => hI _ (.submit link)
      exact keeps_importAnswers hguards link answers submit s h

theorem Lasting.turns {turns : List Turn} (h : Lasting I s)
    (hI : ∀ turn ∈ turns, ∀ op, turn.Carries op → Tables.Stable op I) :
    Lasting I (s.turns turns) := by
  induction turns generalizing s with
  | nil => exact h
  | cons turn rest ih =>
      have hfirst : Lasting I (s.turn turn) := h.turn (hI turn List.mem_cons_self)
      exact ih hfirst fun turn hturn => hI turn (List.mem_cons_of_mem _ hturn)

/-! ### Submitting -/

/-- A submission that goes through leaves an instance that is locked, and nothing pending. -/
theorem submit_freezes {link : Json} {row : Instance}
    (hsubmit : ((submit link).run s).1 = .ok row) :
    row.isLocked = true ∧ row.submittedAt = some s.now ∧
      ((submit link).run s).2.Settled ∧ row ∈ ((submit link).run s).2.tables.instances := by
  rw [run_submit] at hsubmit ⊢
  cases hfound : s.tables.under link with
  | error failure =>
      rw [hfound] at hsubmit
      cases hsubmit
  | ok found =>
  cases found with
  | none =>
      rw [hfound] at hsubmit
      cases hsubmit
  | some opened =>
  rw [hfound] at hsubmit
  dsimp only at hsubmit ⊢
  by_cases hlocked : opened.isLocked = true
  · rw [if_pos hlocked] at hsubmit
    cases hsubmit
  · rw [if_neg hlocked] at hsubmit ⊢
    have hnamed := Tables.found_eq_ok.mp hsubmit
    obtain ⟨hnames, hmem⟩ := Tables.names_of_named hnamed
    have hid : opened.id = row.id := hnames.eq_of_int
    -- The row with the id of the one that was opened is the one that was changed.
    obtain ⟨old, hold, hrow⟩ := List.mem_map.mp hmem
    by_cases hsame : old.id = opened.id
    · rw [if_pos hsame] at hrow
      rw [← hrow]
      exact ⟨rfl, rfl, rfl, hrow ▸ hmem⟩
    · rw [if_neg hsame] at hrow
      exact absurd (hrow ▸ hid.symm) hsame

/-- What a service answers whose instance is locked. -/
structure Shut (row : Instance) (s : Service) : Prop where
  submit : ∀ link, Database.column link = .ok (some row.link) →
    ((Service.submit link).run s).1 = .error (.alreadySubmitted "Already submitted")
  save : ∀ link id value version n, Database.column link = .ok (some row.link) →
    id.truthy = true → readVersion version = .ok n →
      ((Service.save link id value version).run s).1 =
        .ok (.rejected .locked (.str "Questionnaire is locked"))
  delete : ∀ key, Database.Names key row.id →
    ((deleteInstance key).run s).1 = .error .submittedKept

theorem shut_of_frozen {row : Instance} {answers : List StoredAnswer}
    (hlocked : row.isLocked = true) (h : Tables.Frozen row answers s.tables) : Shut row s where
  submit link hlink := by
    rw [run_submit, h.sound.under_of_mem h.kept hlink]
    dsimp only
    rw [if_pos hlocked]
  save link id value version n hlink hnamed hcounted := by
    simp only [Service.save, saveAmong, hnamed, hcounted, Bool.not_true, Bool.false_eq_true,
      if_false, Attempt.run_bind, Attempt.run_lift, Attempt.andThen_ok, run_instanceUnder,
      h.sound.under_of_mem h.kept hlink, hlocked, if_true]
    rfl
  delete key hnames := by
    have hfound : s.tables.found key = .ok row := by
      rw [Tables.found_eq_ok, Tables.named_of_names hnames, h.sound.instance?_of_mem h.kept]
    rw [run_deleteInstance, hfound]
    dsimp only
    rw [hlocked, Bool.true_or, if_pos rfl]

/-- **A submitted questionnaire is frozen.**  Let an instance be submitted after any turns from
empty tables on, and let more turns follow, of which each is whole and none unlocks it.  Then in
what lasts and in what the session sees it is the very row that was submitted, with the very
answers that it had, and nobody can submit, save or delete. -/
theorem submitted_stays_frozen (now : Moment) (links : Nat → String) (drawn : Nat)
    (fillBase : Option String) (before later : List Turn) (link : Json) {row : Instance}
    (hsubmit : ((submit link).run ((blank now links drawn fillBase).turns before)).1 = .ok row)
    (hlater : ∀ turn ∈ later, ∀ op, turn.Carries op → op.isWhole = true ∧ ¬op.Unlocks row.id) :
    let opened := (blank now links drawn fillBase).turns before
    let submitted := ((submit link).run opened).2
    let s := submitted.turns later
    row.isLocked = true ∧ row.submittedAt = some opened.now ∧
      (∀ t, t = s.database.committed ∨ t = s.database.working →
        t.instance? row.id = some row ∧
          t.answersOf row.id = submitted.tables.answersOf row.id) ∧
      Shut row s := by
  intro opened submitted s
  have hsound : Lasting Tables.Sound opened :=
    (lasting_blank Tables.sound_empty now links drawn fillBase).turns
      fun _ _ op _ => Tables.stable_sound op
  obtain ⟨hlocked, hat, hsettled, hkept⟩ := submit_freezes hsubmit
  have hsoundAfter : Lasting Tables.Sound submitted :=
    (ends_submit link opened).lasting (Tables.stable_sound _) hsound
  have hfrozen : Lasting (Tables.Frozen row (submitted.tables.answersOf row.id)) submitted :=
    .of_settled hsettled ⟨hsoundAfter.2, hkept, rfl⟩
  have hstays : Lasting (Tables.Frozen row (submitted.tables.answersOf row.id)) s :=
    hfrozen.turns fun turn hturn op hop =>
      Tables.stable_frozen hlocked (hlater turn hturn op hop).1 (hlater turn hturn op hop).2
  refine ⟨hlocked, hat, fun t ht => ?_, shut_of_frozen hlocked hstays.2⟩
  have ht : Tables.Frozen row (submitted.tables.answersOf row.id) t := by
    rcases ht with rfl | rfl
    · exact hstays.1
    · exact hstays.2
  exact ⟨ht.sound.instance?_of_mem ht.kept, ht.answers⟩

/-- The turns in which a questionnaire is sent and answered in part. -/
def answering : List Turn :=
  [.event (.call (.createAdmin (.str "a"))),
    .event (.call (.createTemplate (.str "t") (.obj [("items", .arr [])]) (.int 1) .null)),
    .event (.call (.createInstance (.int 1) (.int 1) (.str "n") (.str "e"))),
    .event (.call (.write (.save (.str "k") (.str "q") (.str "x") (.int 0))))]

/-- Turns that try to change it, after it was submitted. -/
def meddling : List Turn :=
  [.event (.call (.write (.save (.str "k") (.str "q") (.str "y") (.int 1)))),
    .event (.call (.deleteInstance (.int 1))),
    .importing (.str "k") (.obj [("q", .str "z")]) true,
    .event .finish]

/-- The instance that was submitted. -/
def submittedRow : Instance where
  id := 1
  templateId := 1
  link := "k"
  targetName := "n"
  targetEmail := "e"
  createdBy := 1
  createdAt := ⟨0⟩
  sentAt := some ⟨0⟩
  submittedAt := some ⟨0⟩
  isLocked := true

theorem submitted_stays_frozen_meddling :
    let opened := (blank ⟨0⟩ (fun _ => "k") 0 none).turns answering
    let submitted := ((submit (.str "k")).run opened).2
    ((submit (.str "k")).run opened).1 = .ok submittedRow ∧
      (∀ turn ∈ meddling, ∀ op, turn.Carries op →
        op.isWhole = true ∧ ¬op.Unlocks submittedRow.id) ∧
      (∀ t, t = (submitted.turns meddling).database.committed ∨
          t = (submitted.turns meddling).database.working →
        t.instance? submittedRow.id = some submittedRow ∧
          t.answersOf submittedRow.id = submitted.tables.answersOf submittedRow.id) ∧
      Shut submittedRow (submitted.turns meddling) := by
  intro opened submitted
  have hsubmit : ((submit (.str "k")).run opened).1 = .ok submittedRow :=
    eq_ok_of_toOption (by decide +kernel)
  have hlater : ∀ turn ∈ meddling, ∀ op, turn.Carries op →
      op.isWhole = true ∧ ¬op.Unlocks submittedRow.id := by
    intro turn hturn op hop
    simp only [meddling, List.mem_cons, List.not_mem_nil, or_false] at hturn
    rcases hturn with rfl | rfl | rfl | rfl <;> cases hop <;> exact ⟨rfl, id⟩
  have hfrozen := submitted_stays_frozen ⟨0⟩ (fun _ => "k") 0 none answering meddling (.str "k")
    hsubmit hlater
  exact ⟨hsubmit, hlater, hfrozen.2.2⟩

end Service

end Questionnaire
