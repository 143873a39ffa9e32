/-
The same session on two stores.

Two stores may keep different things and still answer alike, save that one of them tells versions
in another way.  A session on the one then is at any time what a session on the other is, told in
that way: `mirrored_after` for one call, from what the two stores answer to the request that it
makes.
-/
import Questionnaire.Proofs.Fill.Calls

namespace Questionnaire

namespace Fields

variable {α β : Type}

theorem get?_mapValues (f : α → β) (fs : Fields α) (id : Json) :
    (fs.mapValues f).get? id = (fs.get? id).map f := by
  induction fs with
  | nil => rfl
  | cons e fs ih =>
      obtain ⟨name, v⟩ := e
      show (if name.samePart id then some (f v) else (Fields.mapValues f fs).get? id) = _
      rw [ih, get?]
      split <;> rfl

theorem has_mapValues (f : α → β) (fs : Fields α) (id : Json) :
    (fs.mapValues f).has id = fs.has id := by
  rw [has, get?_mapValues, Option.isSome_map, has]

theorem mapValues_set (f : α → β) (fs : Fields α) (id : Json) (value : α) :
    (fs.set id value).mapValues f = (fs.mapValues f).set id (f value) := by
  induction fs with
  | nil => rfl
  | cons e fs ih =>
      obtain ⟨name, v⟩ := e
      show Fields.mapValues f (if _ then _ else _) = if _ then _ else _
      split
      · rfl
      · exact congrArg ((name, f v) :: ·) ih

theorem mapValues_id (fs : Fields α) : fs.mapValues id = fs := List.map_id fs

end Fields

/-- An outcome with its version told in another way. -/
def SaveOutcome.told (g : Json → Json) : SaveOutcome → SaveOutcome
  | .accepted version updatedAt => .accepted (g version) updatedAt
  | .conflict c => .conflict { c with serverVersion := g c.serverVersion }
  | .rejected reason message => .rejected reason message
  | .failed error => .failed error

namespace FillSession

variable {σ τ : Type} {store : AnswerStore σ} {other : AnswerStore τ} {link q : Json}
  {s : FillSession} {g : Json → Json}

/-- A session with its versions told in another way. -/
def told (g : Json → Json) (s : FillSession) : FillSession :=
  { s with
    versions := s.versions.mapValues g
    conflicts := s.conflicts.mapValues fun c => { c with serverVersion := g c.serverVersion } }

theorem told_id (s : FillSession) : s.told (fun v => v) = s := by
  rw [told, show s.versions.mapValues (fun v => v) = s.versions from Fields.mapValues_id _,
    show s.conflicts.mapValues (fun c => c) = s.conflicts from Fields.mapValues_id _]

theorem version_told (hg : ∀ n, g (.int n) = .int n) (s : FillSession) (q : Json) :
    (s.told g).version q = g (s.version q) := by
  show ((s.versions.mapValues g).get? q).getD (.int 0) = g ((s.versions.get? q).getD (.int 0))
  rw [Fields.get?_mapValues]
  cases s.versions.get? q with
  | none => exact (hg 0).symm
  | some version => rfl

theorem asks_told {p : Presentation} : (s.told g).Asks q p ↔ s.Asks q p := by
  have hblocked : (s.told g).conflicts.has q = s.conflicts.has q := by
    simp only [told, Fields.has_mapValues]
  constructor
  · exact fun h => ⟨h.presented, h.named, h.isName, h.opened, hblocked ▸ h.unblocked⟩
  · exact fun h => ⟨h.presented, h.named, h.isName, h.opened, hblocked.trans h.unblocked⟩

theorem record_told (s : FillSession) (q : Json) (outcome : SaveOutcome) :
    (s.told g).record q (outcome.told g) = (s.record q outcome).told g := by
  cases outcome with
  | accepted | conflict => simp only [record, SaveOutcome.told, told, Fields.mapValues_set]
  | rejected | failed => rfl

/-- The versions that are loaded are whole numbers. -/
theorem versionsOf_told (hg : ∀ n, g (.int n) = .int n) {records versions : Entries Json}
    (h : versionsOf records = .ok versions) :
    (Fields.ofEntries versions).mapValues g = Fields.ofEntries versions := by
  induction records generalizing versions with
  | nil =>
      obtain rfl := Except.ok.inj h
      rfl
  | cons record records ih =>
      obtain ⟨name, v⟩ := record
      cases v with
      | obj ms =>
          rw [versionsOf] at h
          cases hversion : versionOf (.obj ms) with
          | error misfit =>
              rw [hversion] at h
              cases h
          | ok version =>
              cases hothers : versionsOf records with
              | error misfit =>
                  rw [hversion, hothers] at h
                  cases h
              | ok others =>
                  rw [hversion, hothers] at h
                  obtain rfl := Except.ok.inj h
                  show (Json.str name, g (.int version)) :: _ = _
                  rw [hg]
                  exact congrArg (_ :: ·) (ih hothers)
      | null | bool | int | float | str | arr => exact ih h

theorem Seeds.told (hg : ∀ n, g (.int n) = .int n) {reached : Except Failure Unit × FillSession}
    (h : Seeds payload s reached) : Seeds payload (s.told g) (reached.1, reached.2.told g) := by
  cases h with
  | noObject hobject => exact .noObject hobject
  | noDocument hobject hdocument => exact .noDocument hobject hdocument
  | noRecords hobject hdocument hrecords => exact .noRecords hobject hdocument hrecords
  | noVersions hobject hdocument hrecords hversions =>
      exact .noVersions hobject hdocument hrecords hversions
  | @completed document records versions hobject hdocument hrecords hversions =>
      have hloaded : (loaded payload document records versions s).told g =
          loaded payload document records versions (s.told g) := by
        rw [FillSession.told, loaded, versionsOf_told hg hversions]
        rfl
      rw [hloaded]
      exact .completed hobject hdocument hrecords hversions

/-- Loading does not depend on how versions were told before. -/
theorem seed_told (hg : ∀ n, g (.int n) = .int n) (payload : Json) (s : FillSession) :
    (seed payload).run (s.told g) =
      (((seed payload).run s).1, ((seed payload).run s).2.told g) :=
  ((seeds payload s).told hg).run

/-- The second store answers as the first one does, in another way, and both go on alike. -/
structure Echoes {α : Type} (R : σ → τ → Prop) (f : α → α) (first : Except Failure α × σ)
    (second : Except Failure α × τ) : Prop where
  answer : second.1 = first.1.map f
  outside : R first.2 second.2

variable {α : Type} {R : σ → τ → Prop} {f : α → α} {first : Except Failure α × σ}
  {second : Except Failure α × τ}

theorem Echoes.of_error (h : Echoes R f first second) {failure : Failure} {now : σ}
    (hfirst : first = (.error failure, now)) :
    ∃ now', second = (.error failure, now') ∧ R now now' := by
  subst hfirst
  exact ⟨second.2, Prod.ext h.answer rfl, h.outside⟩

theorem Echoes.of_ok (h : Echoes R f first second) {x : α} {now : σ}
    (hfirst : first = (.ok x, now)) : ∃ now', second = (.ok (f x), now') ∧ R now now' := by
  subst hfirst
  exact ⟨second.2, Prod.ext h.answer rfl, h.outside⟩

/-- The request that a call makes is answered alike by both stores. -/
def Call.Echoed (store : AnswerStore σ) (other : AnswerStore τ) (link : Json) (R : σ → τ → Prop)
    (g : Json → Json) (s : FillSession) (outside : σ) (outside' : τ) : Call → Prop
  | .load => Echoes R id ((store.fetch link).run outside) ((other.fetch link).run outside')
  | .answer q value => (∃ p, s.Asks q p) →
    Echoes R (SaveOutcome.told g) ((store.save link q value (s.version q)).run outside)
      ((other.save link q value (g (s.version q))).run outside')
  | .submit => Echoes R id ((store.submit link).run outside) ((other.submit link).run outside')

/-- **If its request is answered alike, a call does the same on both stores.** -/
theorem mirrored_after (hg : ∀ n, g (.int n) = .int n) {outside : σ} {outside' : τ} {call : Call}
    (hR : R outside outside') (h : call.Echoed store other link R g s outside outside') :
    (call.after other link (s.told g, outside')).1 = (call.after store link (s, outside)).1.told g ∧
      R (call.after store link (s, outside)).2 (call.after other link (s.told g, outside')).2 := by
  cases call with
  | load =>
      rw [after_load, after_load]
      cases hfetch : (store.fetch link).run outside with
      | mk answer now =>
          cases answer with
          | error failure =>
              obtain ⟨now', hfetch', hnow⟩ := h.of_error hfetch
              rw [hfetch']
              exact ⟨rfl, hnow⟩
          | ok payload =>
              obtain ⟨now', hfetch', hnow⟩ := h.of_ok hfetch
              rw [hfetch']
              exact ⟨congrArg Prod.snd (seed_told hg payload s), hnow⟩
  | answer q value =>
      by_cases hasks : ∃ p, s.Asks q p
      · have hechoes := h hasks
        obtain ⟨p, hasks⟩ := hasks
        rw [after_answer_of_asks hasks, after_answer_of_asks (asks_told.mpr hasks),
          version_told hg]
        cases hsave : (store.save link q value (s.version q)).run outside with
        | mk answer now =>
            cases answer with
            | error failure =>
                obtain ⟨now', hsave', hnow⟩ := hechoes.of_error hsave
                rw [hsave']
                exact ⟨rfl, hnow⟩
            | ok outcome =>
                obtain ⟨now', hsave', hnow⟩ := hechoes.of_ok hsave
                rw [hsave']
                exact ⟨record_told (s.applyAnswer p q value) q outcome, hnow⟩
      · have hasks' : ¬∃ p, (s.told g).Asks q p := by simpa only [asks_told] using hasks
        rw [after_answer_of_not_asks hasks, after_answer_of_not_asks hasks']
        exact ⟨rfl, hR⟩
  | submit =>
      have hisEmpty : (s.told g).conflicts.isEmpty = s.conflicts.isEmpty := List.isEmpty_map
      cases hopen : s.conflicts.isEmpty with
      | true =>
          rw [after_submit_of_open hopen, after_submit_of_open (hisEmpty.trans hopen)]
          cases hsubmit : (store.submit link).run outside with
          | mk answer now =>
              cases answer with
              | error failure =>
                  obtain ⟨now', hsubmit', hnow⟩ := h.of_error hsubmit
                  rw [hsubmit']
                  exact ⟨rfl, hnow⟩
              | ok done =>
                  obtain ⟨now', hsubmit', hnow⟩ := h.of_ok hsubmit
                  rw [hsubmit']
                  exact ⟨rfl, hnow⟩
      | false =>
          rw [after_submit_of_blocked hopen, after_submit_of_blocked (hisEmpty.trans hopen)]
          exact ⟨rfl, hR⟩

end FillSession

end Questionnaire
