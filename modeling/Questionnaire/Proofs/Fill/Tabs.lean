/-
Several sessions on one questionnaire.

Any number of tabs are open on the questionnaire under one link.  Each has a session of
its own, and they load, answer and submit in any order, while an author may unlock the
questionnaire in between.  The answer of the store to a save may be lost on the way, so
that a tab does not learn that its answer was stored.

What a tab knows of a question is the version it would name in a save.  It is never
ahead of the version that is stored, and where it is level with it, the tab has been
told exactly what is stored: `Tab.Knows`.  A save goes through only with a version
that is not behind, so it goes through only where the tab has seen what it overwrites.
-/
import Mathlib.Logic.Function.Basic
import Questionnaire.Proofs.Fill.Loading

namespace Questionnaire

/-- A tab: a session, and for each question the answer with its version that the tab
loaded last or was last told to be accepted. -/
structure Tab where
  session : FillSession := {}
  seen : String → Option (Json × Json) := fun _ => none

/-- The tabs on one questionnaire, by number, and the service behind them. -/
structure Tabs where
  tab : Nat → Tab := fun _ => {}
  service : Service

/-- A store whose answers to saves are lost, where an error is given in their place. -/
def AnswerStore.losing {σ : Type} (store : AnswerStore σ) : Option Json → AnswerStore σ
  | none => store
  | some error =>
    { store with
      save := fun link id value version outside =>
        (.ok (.failed error), ((store.save link id value version).run outside).2) }

/-- The text and the version of an answer, as they are told. -/
def StoredAnswer.pair (a : StoredAnswer) : Json × Json := (.ofText? a.value, a.version.toJson)

namespace Tabs

/-- What may happen next. -/
inductive Action
  /-- A tab loads the questionnaire, for the first time or once more. -/
  | load (tab : Nat)
  /-- A question is answered in a tab; `lost` is the error that the tab meets if the answer of the
  store is lost. -/
  | answer (tab : Nat) (question : String) (value : Json) (lost : Option Json)
  | submit (tab : Nat)
  /-- An author unlocks an instance. -/
  | unlock (id : Json)
  /-- Time passes. -/
  | wait (now : Moment)

/-- The tabs after a session did something, with what its tab has seen then. -/
def update (w : Tabs) (i : Nat) (seen : String → Option (Json × Json))
    (parts : FillSession × Service) : Tabs :=
  ⟨Function.update w.tab i ⟨parts.1, seen⟩, parts.2⟩

/-- What a tab has seen after a save, if its outcome reaches the tab. -/
def seenAfter (seen : String → Option (Json × Json)) (q : String) (value : Json) :
    Except Failure SaveOutcome → String → Option (Json × Json)
  | .ok (.accepted version _) => Function.update seen q (some (.ofText? value.text?, version))
  | _ => seen

theorem seenAfter_of_not_accepted {outcome : Except Failure SaveOutcome}
    (h : ¬Service.Accepted outcome) (seen : String → Option (Json × Json)) (q : String)
    (value : Json) : seenAfter seen q value outcome = seen := by
  unfold seenAfter
  split
  case h_1 version updatedAt => exact absurd ⟨version, updatedAt, rfl⟩ h
  case h_2 => rfl

/-- One step on the questionnaire under a link. -/
def act (link : String) (w : Tabs) : Action → Tabs
  | .load i =>
    let (outcome, parts) :=
      (FillSession.load Service.store (.str link)).run ((w.tab i).session, w.service)
    match outcome with
    | .ok _ => w.update i parts.1.holds parts
    | .error _ => w.update i (w.tab i).seen parts
  | .answer i q value lost =>
    let (outcome, parts) :=
      (FillSession.setAnswer (Service.store.losing lost) (.str link) (.str q) value).run
        ((w.tab i).session, w.service)
    w.update i (seenAfter (w.tab i).seen q value outcome) parts
  | .submit i =>
    w.update i (w.tab i).seen
      ((FillSession.submit Service.store (.str link)).run ((w.tab i).session, w.service)).2
  | .unlock id => { w with service := ((Service.unlock id).run w.service).2 }
  | .wait now => { w with service := { w.service with now } }

/-- A run on the questionnaire under a link. -/
def run (link : String) (w : Tabs) (actions : List Action) : Tabs := actions.foldl (act link) w

/-- The store accepts an answer if it is given in a tab now. -/
def Accepts (w : Tabs) (link : String) (i : Nat) (q : String) (value : Json) : Prop :=
  Service.Accepted ((FillSession.setAnswer Service.store (.str link) (.str q) value).run
    ((w.tab i).session, w.service)).1

/-- The stored answer to a question, with its version. -/
def stored (w : Tabs) (link q : String) : Option (Json × Json) :=
  (w.service.tables.answerAt link q).map StoredAnswer.pair

end Tabs

/-! ### One answer -/

/-- An answer that is given in a session is stored. -/
structure FillSession.Lands (s : FillSession) (service : Service) (link q : String) (value : Json)
    (row : Instance) (n : Int) (a : StoredAnswer) (after : Service) : Prop where
  named : Service.readVersion (s.version (.str q)) = .ok n
  fits : Database.fits n = true
  found : service.tables.instanceAt? link = some row
  stored : Service.Stored service row q value.text? n a after

namespace FillSession

variable {service : Service}

/-- A save that is not accepted leaves the versions of the session. -/
theorem version_record_of_not_accepted (s : FillSession) (q r : String) {outcome : SaveOutcome}
    (h : ¬Service.Accepted (.ok outcome)) :
    (s.record (.str q) outcome).version (.str r) = s.version (.str r) := by
  rw [version_record]
  cases outcome with
  | accepted version updatedAt => exact absurd ⟨version, updatedAt, rfl⟩ h
  | conflict c => rfl
  | rejected reason message => rfl
  | failed error => rfl

theorem not_accepted_failed (error : Json) : ¬Service.Accepted (.ok (.failed error)) := by
  rintro ⟨_, _, h⟩
  cases h

/-- Whether the answer of the store is lost makes no difference to the store. -/
theorem setAnswer_losing_state {σ : Type} (store : AnswerStore σ) (lost : Option Json)
    (link id value : Json) (s : FillSession) (outside : σ) :
    ((setAnswer (store.losing lost) link id value).run (s, outside)).2.2 =
      ((setAnswer store link id value).run (s, outside)).2.2 := by
  cases lost with
  | none => rfl
  | some error =>
      obtain ⟨p, hasks⟩ | ⟨outcome, -, hrun⟩ := asks_or_refuses σ s id
      · rw [run_setAnswer_of_asks hasks, run_setAnswer_of_asks hasks]
        show ((store.save link id value (s.version id)).run outside).2 = _
        cases (store.save link id value (s.version id)).run outside with
        | mk outcome after => cases outcome <;> rfl
      · rw [hrun, hrun]

/-- Giving an answer leaves the service and the versions of the session as they are, or the
answer is stored; then the session has learnt the new version or, if the answer of the
store was lost, has kept its versions. -/
theorem setAnswer_lands_or_keeps (h : service.Ready) (link q : String) (value : Json)
    (lost : Option Json) (s : FillSession) :
    ∃ outcome after service',
      (setAnswer (Service.store.losing lost) (.str link) (.str q) value).run (s, service) =
          (outcome, (after, service')) ∧
        ((service' = service ∧ ¬Service.Accepted outcome ∧
            ∀ r, after.version (.str r) = s.version (.str r)) ∨
          ∃ row n a, s.Lands service link q value row n a service' ∧
            ((lost = none ∧ outcome = .ok (Service.written a) ∧ ∀ r,
                after.version (.str r) = if r = q then a.version.toJson else s.version (.str r)) ∨
              (lost ≠ none ∧ ¬Service.Accepted outcome ∧
                ∀ r, after.version (.str r) = s.version (.str r)))) := by
  obtain ⟨p, hasks⟩ | ⟨outcome, hrefused, hrun⟩ := asks_or_refuses Service s (.str q)
  case inr =>
    refine ⟨outcome, s, service, hrun _ _ _ _, Or.inl ⟨rfl, ?_, fun r => rfl⟩⟩
    rintro ⟨version, updatedAt, haccepted⟩
    exact hrefused version updatedAt haccepted
  rw [run_setAnswer_of_asks hasks]
  have hsave := Service.save_stores_or_keeps h (.str link) (.str q) value (s.version (.str q))
  cases hrun : (Service.save (.str link) (.str q) value (s.version (.str q))).run service with
  | mk told service' =>
  rw [hrun] at hsave
  cases lost with
  | none =>
      simp only [AnswerStore.losing, Service.store, hrun]
      obtain ⟨row, q', n, a, hin, rfl, hstored⟩ | ⟨hrefused, rfl⟩ := hsave
      · obtain rfl : q = q' := Option.some.inj (Except.ok.inj hin.asked)
        refine ⟨_, _, _, rfl, Or.inr ⟨row, n, a, ⟨hin.counted, hin.fits,
          Except.ok.inj hin.found, hstored⟩, Or.inl ⟨trivial, rfl, fun r => ?_⟩⟩⟩
        exact version_record (s.applyAnswer p (.str q) value) q r (Service.written a)
      · cases told with
        | error failure => exact ⟨_, _, _, rfl, Or.inl ⟨rfl, hrefused, fun r => rfl⟩⟩
        | ok outcome =>
            refine ⟨_, _, _, rfl, Or.inl ⟨rfl, hrefused, fun r => ?_⟩⟩
            exact version_record_of_not_accepted (s.applyAnswer p (.str q) value) q r hrefused
  | some error =>
      have hfailed := not_accepted_failed error
      have hkept : ∀ r, ((s.applyAnswer p (.str q) value).record (.str q) (.failed error)).version
          (.str r) = s.version (.str r) := fun r => rfl
      have hlosing : ((Service.store.losing (some error)).save (.str link) (.str q) value
          (s.version (.str q))).run service = (.ok (.failed error), service') := by
        show (_, ((Service.save (.str link) (.str q) value (s.version (.str q))).run service).2) = _
        rw [hrun]
      rw [hlosing]
      obtain ⟨row, q', n, a, hin, -, hstored⟩ | ⟨-, rfl⟩ := hsave
      · obtain rfl : q = q' := Option.some.inj (Except.ok.inj hin.asked)
        exact ⟨_, _, _, rfl, Or.inr ⟨row, n, a, ⟨hin.counted, hin.fits,
          Except.ok.inj hin.found, hstored⟩, Or.inr ⟨by simp, hfailed, hkept⟩⟩⟩
      · exact ⟨_, _, _, rfl, Or.inl ⟨rfl, hfailed, hkept⟩⟩

end FillSession

/-! ### What a tab knows -/

/-- What a tab knows of a question: the version that it would name is not ahead of the
stored one, and where the two are level, the tab has seen the answer that is stored. -/
def Tab.Knows (tab : Tab) (t : Tables) (link q : String) : Prop :=
  ∃ n, Service.readVersion (tab.session.version (.str q)) = .ok n ∧ n ≤ t.timesAnswered link q ∧
    (n = t.timesAnswered link q → 0 < n → Database.fits n = true →
      tab.seen q = (t.answerAt link q).map StoredAnswer.pair)

namespace Tab

variable {tab : Tab} {t u : Tables} {link q : String}

/-- A tab that was not loaded knows that there is no version. -/
theorem knows_fresh (h : t.WellVersioned) (link q : String) : Tab.Knows {} t link q :=
  ⟨0, rfl, h.timesAnswered_nonneg link q, fun _ hpos => absurd hpos (Int.lt_irrefl 0)⟩

/-- What others store does not put a tab ahead. -/
theorem Knows.movesOn (h : tab.Knows t link q) (hmoves : Tables.MovesOn link t u) :
    tab.Knows u link q := by
  obtain ⟨n, hnamed, hle, hlevel⟩ := h
  refine ⟨n, hnamed, Int.le_trans hle (hmoves.le q), ?_⟩
  intro hn hpos hfits
  rcases hmoves q with hsame | hlt
  · rw [hsame]
    refine hlevel ?_ hpos hfits
    rw [hn, Tables.timesAnswered, Tables.timesAnswered, hsame]
  · omega

/-- A tab knows what it knew as long as it would name the same version. -/
theorem Knows.of_version_eq (h : tab.Knows t link q) {session : FillSession}
    (hversion : session.version (.str q) = tab.session.version (.str q)) :
    Tab.Knows ⟨session, tab.seen⟩ t link q := by
  obtain ⟨n, hnamed, hknown⟩ := h
  exact ⟨n, hversion ▸ hnamed, hknown⟩

/-- A tab that has loaded knows what is stored. -/
theorem knows_of_holds (h : t.WellVersioned) {session : FillSession}
    (hholds : session.Holds t link) : Tab.Knows ⟨session, session.holds⟩ t link q := by
  obtain ⟨hversion, hseen⟩ := hholds q
  refine ⟨t.timesAnswered link q, by rw [hversion]; rfl, Int.le_refl _, ?_⟩
  intro _ _ hfits
  refine hseen.trans ?_
  cases ha : t.answerAt link q with
  | none => rfl
  | some a =>
      -- The version was told as a whole number, which it is while it fits.
      rw [Tables.timesAnswered_of_answer ha] at hfits
      have hwhole : a.version.toJson = .int a.version.writes := by
        rw [(h.counted_answerAt ha).eq_whole hfits]
        rfl
      simp only [Option.map_some, StoredAnswer.pair, hwhole]

end Tab

namespace Tabs

variable {w : Tabs} {link : String}

/-- The service is as its operations leave it, and no tab is ahead of it. -/
structure Sound (link : String) (w : Tabs) : Prop where
  ready : w.service.Ready
  knows : ∀ i q, (w.tab i).Knows w.service.tables link q

/-- A step of one tab leaves the others behind at most. -/
theorem Sound.update (h : w.Sound link) {i : Nat} {seen : String → Option (Json × Json)}
    {parts : FillSession × Service} (hready : parts.2.Ready)
    (hmoves : Tables.MovesOn link w.service.tables parts.2.tables)
    (hknows : ∀ q, Tab.Knows ⟨parts.1, seen⟩ parts.2.tables link q) :
    (w.update i seen parts).Sound link := by
  refine ⟨hready, fun j q => ?_⟩
  by_cases hj : j = i
  · rw [hj]
    simp only [Tabs.update, Function.update_self]
    exact hknows q
  · simp only [Tabs.update, Function.update_of_ne hj]
    exact (h.knows j q).movesOn hmoves

/-- What is known of the answers does not change while an instance is submitted or unlocked. -/
theorem Sound.changesInstance (h : w.Sound link) {after : Service}
    (hchange : Service.ChangesInstance w.service after) : Sound link { w with service := after } :=
  ⟨hchange.ready h.ready, fun i q => (h.knows i q).movesOn (hchange.movesOn link)⟩

end Tabs

namespace FillSession.Lands

variable {s : FillSession} {service after : Service} {link q : String} {value : Json}
  {row : Instance} {n : Int} {a : StoredAnswer}

theorem movesOn (h : s.Lands service link q value row n a after) (hs : service.Ready) :
    Tables.MovesOn link service.tables after.tables :=
  h.stored.movesOn hs h.found h.fits

/-- What was stored before was not newer than the version that the session named. -/
theorem notNewer (h : s.Lands service link q value row n a after) {b : StoredAnswer}
    (hb : service.tables.answerAt link q = some b) : b.version.writes ≤ n := by
  rw [Tables.answerAt, h.found] at hb
  exact h.stored.notNewer b hb

/-- The tab whose answer was stored has been told what is stored now, and of the other
questions it knows what it knew. -/
theorem knows (h : s.Lands service link q value row n a after) (hs : service.Ready)
    {seen : String → Option (Json × Json)} (hknows : ∀ r, Tab.Knows ⟨s, seen⟩ service.tables link r)
    {session : FillSession} (hversion : ∀ r, session.version (.str r) =
      if r = q then a.version.toJson else s.version (.str r)) (r : String) :
    Tab.Knows ⟨session, Tabs.seenAfter seen q value (.ok (Service.written a))⟩ after.tables link
      r := by
  by_cases hr : r = q
  · obtain rfl := hr
    have hat := h.stored.answerAt h.found
    have hcounted := h.stored.ready.versions.counted_answerAt hat
    refine ⟨a.version.writes, ?_, Int.le_of_eq (Tables.timesAnswered_of_answer hat).symm, ?_⟩
    · rw [hversion, if_pos rfl]
      exact hcounted.readVersion_toJson
    · intro _ _ _
      rw [hat, Option.map_some, StoredAnswer.pair, h.stored.value_eq]
      exact Function.update_self r _ seen
  · obtain ⟨m, hnamed, hle, hlevel⟩ := (hknows r).movesOn (h.movesOn hs)
    refine ⟨m, ?_, hle, ?_⟩
    · rw [hversion, if_neg hr]
      exact hnamed
    · intro hm hpos hfits
      exact (Function.update_of_ne hr _ seen).trans (hlevel hm hpos hfits)

end FillSession.Lands

namespace Tabs

variable {w : Tabs} {link : String}

/-- A step keeps what tabs know, and answers only move on. -/
theorem Sound.act (h : w.Sound link) (action : Action) :
    (w.act link action).Sound link ∧
      Tables.MovesOn link w.service.tables (w.act link action).service.tables := by
  cases action with
  | load i =>
      obtain ⟨outcome, after, hrun, ⟨failure, rfl, hkept⟩ | ⟨rfl, hholds⟩⟩ :=
        FillSession.load_holds h.ready link (w.tab i).session
      · simp only [Tabs.act, hrun]
        have hmoves := Tables.MovesOn.refl link w.service.tables
        refine ⟨h.update h.ready hmoves fun q => ?_, hmoves⟩
        exact (h.knows i q).of_version_eq (by rw [FillSession.version, hkept]; rfl)
      · simp only [Tabs.act, hrun]
        have hmoves := Tables.MovesOn.refl link w.service.tables
        exact ⟨h.update h.ready hmoves fun q => Tab.knows_of_holds h.ready.versions hholds, hmoves⟩
  | answer i q value lost =>
      obtain ⟨outcome, after, service', hrun, hends⟩ :=
        FillSession.setAnswer_lands_or_keeps h.ready link q value lost (w.tab i).session
      simp only [Tabs.act, hrun]
      obtain ⟨rfl, hrefused, hkept⟩ | ⟨row, n, a, hlands, ⟨-, rfl, hversion⟩ |
        ⟨-, hlost, hkept⟩⟩ := hends
      · have hmoves := Tables.MovesOn.refl link w.service.tables
        rw [seenAfter_of_not_accepted hrefused]
        exact ⟨h.update h.ready hmoves fun r => (h.knows i r).of_version_eq (hkept r), hmoves⟩
      · have hmoves := hlands.movesOn h.ready
        refine ⟨h.update hlands.stored.ready hmoves fun r => ?_, hmoves⟩
        exact hlands.knows h.ready (h.knows i) hversion r
      · -- The tab was not told, so that now it is behind.
        have hmoves := hlands.movesOn h.ready
        rw [seenAfter_of_not_accepted hlost]
        refine ⟨h.update hlands.stored.ready hmoves fun r => ?_, hmoves⟩
        exact ((h.knows i r).movesOn hmoves).of_version_eq (hkept r)
  | submit i =>
      obtain ⟨outcome, after, service', hrun, hkept, hends⟩ :=
        FillSession.submit_keeps Service.store (.str link) (w.tab i).session w.service
      have hchange : Service.ChangesInstance w.service service' := by
        obtain rfl | rfl := hends
        · exact Or.inl rfl
        · rw [Service.store_submit_state]
          exact Service.submit_changesInstance h.ready.settled (.str link)
      simp only [Tabs.act, hrun]
      have hmoves := hchange.movesOn link
      refine ⟨h.update (hchange.ready h.ready) hmoves fun q => ?_, hmoves⟩
      refine ((h.knows i q).movesOn hmoves).of_version_eq ?_
      rw [FillSession.version, hkept]
      rfl
  | unlock id =>
      have hchange := Service.unlock_changesInstance id w.service
      exact ⟨h.changesInstance hchange, hchange.movesOn link⟩
  | wait now => exact ⟨⟨⟨h.ready.settled, h.ready.versions⟩, h.knows⟩, Tables.MovesOn.refl link _⟩

theorem Sound.run (h : w.Sound link) (actions : List Action) :
    (w.run link actions).Sound link ∧
      Tables.MovesOn link w.service.tables (w.run link actions).service.tables := by
  induction actions generalizing w with
  | nil => exact ⟨h, Tables.MovesOn.refl link _⟩
  | cons action rest ih =>
      obtain ⟨hstep, hmoves⟩ := h.act action
      obtain ⟨hrest, hmoves'⟩ := ih hstep
      exact ⟨hrest, hmoves.trans hmoves'⟩

/-- Tabs that were opened on a service and have not loaded yet. -/
def opened (service : Service) : Tabs := { service }

theorem sound_opened {service : Service} (h : service.Ready) (link : String) :
    (opened service).Sound link :=
  ⟨h, fun _ q => Tab.knows_fresh h.versions link q⟩

/-! ### What a save overwrites -/

variable {i : Nat} {q : String} {value : Json}

/-- What the store accepts it stores, also if its answer is lost. -/
theorem Accepts.lands (haccepts : w.Accepts link i q value) (h : w.Sound link)
    (lost : Option Json) :
    ∃ row n a, (w.tab i).session.Lands w.service link q value row n a
      (w.act link (.answer i q value lost)).service := by
  obtain ⟨outcome, after, service', hrun, ⟨-, hrefused, -⟩ | ⟨row, n, a, hlands, -⟩⟩ :=
    FillSession.setAnswer_lands_or_keeps h.ready link q value none (w.tab i).session
  · have houtcome : outcome = _ := (congrArg Prod.fst hrun).symm
    rw [houtcome] at hrefused
    exact absurd haccepts hrefused
  · have hservice : (w.act link (.answer i q value lost)).service = service' :=
      (FillSession.setAnswer_losing_state Service.store lost (.str link) (.str q) value
        (w.tab i).session w.service).trans (congrArg (·.2.2) hrun)
    rw [hservice]
    exact ⟨row, n, a, hlands⟩

/-- A save that is stored overwrites nothing, or what its tab has seen. -/
theorem Accepts.stored_eq (haccepts : w.Accepts link i q value) (h : w.Sound link) :
    w.stored link q = none ∨ w.stored link q = (w.tab i).seen q := by
  obtain ⟨row, n, a, hlands⟩ := haccepts.lands h none
  rw [stored]
  cases hb : w.service.tables.answerAt link q with
  | none => exact Or.inl rfl
  | some b =>
      obtain ⟨m, hnamed, hle, hlevel⟩ := h.knows i q
      obtain rfl : n = m := Except.ok.inj (hlands.named.symm.trans hnamed)
      have htimes := Tables.timesAnswered_of_answer hb
      have hone := (h.ready.versions.counted_answerAt hb).one_le_writes
      have hnotNewer := hlands.notNewer hb
      -- The tab is not ahead and not behind, so it is level and has seen the answer.
      rw [← hb]
      exact Or.inr (hlevel (by omega) (by omega) hlands.fits).symm

/-- Once a save was stored, the version that its tab had named is behind for good. -/
theorem Accepts.not_accepts_later (haccepts : w.Accepts link i q value) (h : w.Sound link)
    (lost : Option Json) (later : List Action) (j : Nat) (value' : Json)
    (hversion : ((((w.act link (.answer i q value lost)).run link later).tab j).session.version
      (.str q)) = (w.tab i).session.version (.str q)) :
    ¬((w.act link (.answer i q value lost)).run link later).Accepts link j q value' := by
  intro haccepts'
  obtain ⟨hsound, -⟩ := h.act (.answer i q value lost)
  obtain ⟨hsound', hmoves⟩ := hsound.run later
  obtain ⟨row, n, a, hlands⟩ := haccepts.lands h lost
  obtain ⟨row', n', a', hlands'⟩ := haccepts'.lands hsound' none
  obtain ⟨m, hnamed, hle, -⟩ := h.knows i q
  obtain rfl : n = m := Except.ok.inj (hlands.named.symm.trans hnamed)
  have hnamed' := hlands'.named
  rw [hversion, hlands.named] at hnamed'
  obtain rfl : n = n' := Except.ok.inj hnamed'
  have htimes := Tables.timesAnswered_of_answer (hlands.stored.answerAt hlands.found)
  rw [hlands.stored.writes h.ready hlands.found hlands.fits] at htimes
  have hstays := hmoves.le q
  have hnonneg := h.ready.versions.timesAnswered_nonneg link q
  set w' := (w.act link (.answer i q value lost)).run link later
  cases hb : w'.service.tables.answerAt link q with
  | none =>
      have hnever := Tables.timesAnswered_of_none hb
      omega
  | some b =>
      have htimes' := Tables.timesAnswered_of_answer hb
      have hnotNewer := hlands'.notNewer hb
      omega

/--
**No silent overwrite.**  At any moment of any run, a save that the store accepts finds
no answer, or it finds exactly the answer and the version that its own tab loaded last or was
last told to be accepted.  After it, whatever happens and whether or not the tab learns of
it, no tab that names the same version is accepted any more: of all the tabs that hold the
current version of a question one gets through.  The run may begin with any service that
requests lead to, since it is ready.
-/
theorem no_silent_overwrite {service : Service} (h : service.Ready) (link : String)
    (actions : List Action) (i : Nat) (q : String) (value : Json) :
    let w := (opened service).run link actions
    w.Accepts link i q value →
      (w.stored link q = none ∨ w.stored link q = (w.tab i).seen q) ∧
        ∀ lost later j value',
          let w' := (w.act link (.answer i q value lost)).run link later
          (w'.tab j).session.version (.str q) = (w.tab i).session.version (.str q) →
            ¬w'.Accepts link j q value' := by
  intro w haccepts
  have hsound : w.Sound link := ((sound_opened h link).run actions).1
  refine ⟨haccepts.stored_eq hsound, ?_⟩
  intro lost later j value' w' hversion
  exact haccepts.not_accepts_later hsound lost later j value' hversion

/-- Two tabs, of which the second was loaded after an answer in the first. -/
def secondLoaded : Tabs :=
  (opened Service.oneOpen).run "k" [.load 0, .answer 0 "q" (.str "x") none, .load 1]

theorem no_silent_overwrite_secondLoaded :
    Service.oneOpen.Ready ∧ secondLoaded.Accepts "k" 1 "q" (.str "y") ∧
      (secondLoaded.stored "k" "q" = none ∨
        secondLoaded.stored "k" "q" = (secondLoaded.tab 1).seen "q") := by
  have haccepts : secondLoaded.Accepts "k" 1 "q" (.str "y") := by
    unfold Accepts
    decide +kernel
  exact ⟨Service.ready_oneOpen, haccepts,
    (no_silent_overwrite Service.ready_oneOpen "k" _ 1 "q" (.str "y") haccepts).1⟩

end Tabs

end Questionnaire
