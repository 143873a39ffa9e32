/-
How a save over a transport ends.

A save sends one request and reads the reply by its status.  Two statuses stand for a version that
the body has to tell, 200 for the one that the answer got and 409 for the newer one that it met;
every other status, and a connection that breaks, is an outcome whatever the body is.  So a save
ends without an outcome in one case only, `Reply.Garbled`: the status promises a version and the
body tells none.  A session that saves in this way passes the failure on, and has applied the
answer by then without a note of what became of it.
-/
import Questionnaire.Proofs.Fill.Session
import Questionnaire.Remote.Client

namespace Questionnaire

namespace Remote

namespace Reply

/-- The reply tells a version under a name: its body is a record whose member of that name counts
for a whole number. -/
def Tells (r : Reply) (name : String) (version : Int) (updatedAt : Json) : Prop :=
  ∃ members told, r.json = .ok (.obj members) ∧ members.lookup name = some told ∧
    told.whole = .ok version ∧ updatedAt = (Json.obj members).getD "updated_at"

/-- By its status the reply tells a version, and by its body it does not. -/
def Garbled (r : Reply) : Prop :=
  (r.status = 200 ∧ ¬ ∃ version updatedAt, r.Tells "version" version updatedAt) ∨
    (r.status = 409 ∧ ¬ ∃ version updatedAt, r.Tells "server_version" version updatedAt)

/-- What someone fails with who looks for a version in a body that tells none. -/
def IsUnusable (failure : Failure) : Prop := failure = .notJson ∨ ∃ m, failure = .misfit m

end Reply

/-- A transport on which everything comes back alike. -/
def Transport.always (exchange : Except String Reply) : Transport Unit where
  send := fun _ => pure exchange
  pause := fun _ => pure ()

namespace Client

variable {σ : Type} {r : Reply} {name : String}

/-! ### Versions in a body -/

theorem versionIn_obj (name : String) (members : Entries Json) :
    versionIn name (.obj members) =
      match members.lookup name with
      | none => .error (.misfit .member)
      | some told =>
          match told.whole with
          | .error m => .error (.misfit m)
          | .ok version => .ok (version, (Json.obj members).getD "updated_at") := by
  rw [versionIn]
  cases members.lookup name with
  | none => rfl
  | some told => cases hwhole : told.whole <;> simp only [hwhole] <;> rfl

theorem versionIn_eq_ok_iff {v : Json} {n : Int} {updatedAt : Json} :
    versionIn name v = .ok (n, updatedAt) ↔
      ∃ members told, v = .obj members ∧ members.lookup name = some told ∧ told.whole = .ok n ∧
        updatedAt = (Json.obj members).getD "updated_at" := by
  cases v with
  | obj members =>
      rw [versionIn_obj]
      cases hmember : members.lookup name with
      | none => simp [hmember]
      | some told =>
          cases hwhole : told.whole with
          | error m => simp [hmember, hwhole]
          | ok version => simp [hmember, hwhole, eq_comm]
  | null | bool | int | float | str | arr => simp [versionIn]

/-- What is wrong with a body that tells no version is a misfit. -/
theorem misfit_of_versionIn {v : Json} {failure : Failure}
    (h : versionIn name v = .error failure) : ∃ m, failure = .misfit m := by
  cases v with
  | obj members =>
      rw [versionIn_obj] at h
      cases hmember : members.lookup name with
      | none =>
          rw [hmember] at h
          exact ⟨_, (Except.error.inj h).symm⟩
      | some told =>
          simp only [hmember] at h
          cases hwhole : told.whole with
          | error m =>
              rw [hwhole] at h
              exact ⟨m, (Except.error.inj h).symm⟩
          | ok version =>
              rw [hwhole] at h
              cases h
  | null | bool | int | float | str | arr => exact ⟨_, (Except.error.inj h).symm⟩

theorem value_versionIn_eq_ok_iff {n : Int} {updatedAt : Json} :
    (r.value >>= versionIn name) = .ok (n, updatedAt) ↔ r.Tells name n updatedAt := by
  rw [Reply.value, Reply.Tells]
  cases r.json with
  | error e =>
      constructor
      · exact nofun
      · rintro ⟨members, told, hjson, -⟩
        cases hjson
  | ok v =>
      show versionIn name v = _ ↔ _
      rw [versionIn_eq_ok_iff]
      simp only [Except.ok.injEq]

theorem isUnusable_of_value_versionIn {failure : Failure}
    (h : (r.value >>= versionIn name) = .error failure) : Reply.IsUnusable failure := by
  rw [Reply.value] at h
  cases hjson : r.json with
  | error e =>
      rw [hjson] at h
      obtain rfl : _ = failure := Except.error.inj h
      show Reply.IsUnusable (if _ then _ else _)
      split
      · exact Or.inr ⟨_, rfl⟩
      · exact Or.inl rfl
  | ok v =>
      rw [hjson] at h
      exact Or.inr (misfit_of_versionIn h)

/-- A reply that is read for a version tells one, or it cannot be used. -/
theorem tells_or_unusable (r : Reply) (name : String) :
    (∃ n updatedAt, (r.value >>= versionIn name) = .ok (n, updatedAt) ∧
        r.Tells name n updatedAt) ∨
      ∃ failure, (r.value >>= versionIn name) = .error failure ∧
        (¬ ∃ n updatedAt, r.Tells name n updatedAt) ∧ Reply.IsUnusable failure := by
  cases htold : r.value >>= versionIn name with
  | ok told => exact Or.inl ⟨told.1, told.2, rfl, value_versionIn_eq_ok_iff.mp htold⟩
  | error failure =>
      refine Or.inr ⟨failure, rfl, ?_, isUnusable_of_value_versionIn htold⟩
      rintro ⟨n, updatedAt, htells⟩
      rw [value_versionIn_eq_ok_iff.mpr htells] at htold
      cases htold

/-- A reply tells one version. -/
theorem tells_unique {n m : Int} {u v : Json} (h : r.Tells name n u) (h' : r.Tells name m v) :
    n = m ∧ u = v := by
  have heq := (value_versionIn_eq_ok_iff.mpr h).symm.trans (value_versionIn_eq_ok_iff.mpr h')
  exact Prod.mk.inj (Except.ok.inj heq)

/-! ### What a reply leads to -/

/-- What a save leads to, by what came back. -/
inductive Concludes : Except String Reply → Except Failure SaveOutcome → Prop
  | broken (text : String) : Concludes (.error text) (.ok (.failed (.str (reason text))))
  | accepted {r : Reply} {n : Int} {updatedAt : Json} (hstatus : r.status = 200)
      (htells : r.Tells "version" n updatedAt) :
      Concludes (.ok r) (.ok (.accepted (.int n) updatedAt))
  | conflict {r : Reply} {n : Int} {updatedAt : Json} (hstatus : r.status = 409)
      (htells : r.Tells "server_version" n updatedAt) :
      Concludes (.ok r) (.ok (.conflict ⟨.int n, updatedAt⟩))
  | locked {r : Reply} (hstatus : r.status = 403) :
      Concludes (.ok r) (.ok (.rejected .locked (.str r.complaint)))
  | unknown {r : Reply} (hstatus : r.status = 404) :
      Concludes (.ok r) (.ok (.rejected .unknownLink (.str r.complaint)))
  | other {r : Reply} (hstatus : r.status ∉ [200, 409, 403, 404]) :
      Concludes (.ok r) (.ok (.failed (.str r.summary)))
  | garbled {r : Reply} {failure : Failure} (hgarbled : r.Garbled)
      (hfailure : Reply.IsUnusable failure) : Concludes (.ok r) (.error failure)

/-- A status that promises a version has the body read for it. -/
theorem readSave_accepting (h : r.status = 200) :
    readSave r = (r.value >>= versionIn "version").map fun told =>
      .accepted (.int told.1) told.2 := by
  rw [readSave, if_pos h]
  cases r.value with
  | error failure => rfl
  | ok v =>
      show (versionIn "version" v >>= _) = (versionIn "version" v).map _
      cases versionIn "version" v <;> rfl

theorem readSave_conflicting (h : r.status = 409) :
    readSave r = (r.value >>= versionIn "server_version").map fun told =>
      .conflict ⟨.int told.1, told.2⟩ := by
  rw [readSave, if_neg (by rw [h]; decide), if_pos h]
  cases r.value with
  | error failure => rfl
  | ok v =>
      show (versionIn "server_version" v >>= _) = (versionIn "server_version" v).map _
      cases versionIn "server_version" v <;> rfl

theorem concludes_readSave (r : Reply) : Concludes (.ok r) (readSave r) := by
  by_cases haccepting : r.status = 200
  · rw [readSave_accepting haccepting]
    rcases tells_or_unusable r "version" with ⟨n, u, hread, htells⟩ | ⟨failure, hread, hnone, hkind⟩
    · rw [hread]
      exact .accepted haccepting htells
    · rw [hread]
      exact .garbled (Or.inl ⟨haccepting, hnone⟩) hkind
  by_cases hconflicting : r.status = 409
  · rw [readSave_conflicting hconflicting]
    rcases tells_or_unusable r "server_version" with
      ⟨n, u, hread, htells⟩ | ⟨failure, hread, hnone, hkind⟩
    · rw [hread]
      exact .conflict hconflicting htells
    · rw [hread]
      exact .garbled (Or.inr ⟨hconflicting, hnone⟩) hkind
  rw [readSave, if_neg haccepting, if_neg hconflicting]
  by_cases hlocked : r.status = 403
  · rw [if_pos hlocked]
    exact .locked hlocked
  rw [if_neg hlocked]
  by_cases hunknown : r.status = 404
  · rw [if_pos hunknown]
    exact .unknown hunknown
  rw [if_neg hunknown]
  exact .other (by simp [haccepting, hconflicting, hlocked, hunknown])

/-! ### Sending -/

theorem run_send {α : Type} (t : Transport σ) (request : Request)
    (next : Except String Reply → Attempt σ α) (outside : σ) :
    (do next (← (t.send request : StateM σ _)) : Attempt σ α).run outside =
      (next (t.send request outside).1).run (t.send request outside).2 := rfl

/-- The request that a save sends. -/
def saveRequest (c : Client) (link id value version : Json) : Request :=
  .post (c.url link.words "save") (saveBody id value version)

/-- **A save sends one request, and what comes back decides how it ends.** -/
theorem concludes_save (c : Client) (t : Transport σ) (link id value version : Json)
    (outside : σ) :
    let asked := (t.send (c.saveRequest link id value version)).run outside
    let ended := (c.save t link id value version).run outside
    Concludes asked.1 ended.1 ∧ ended.2 = asked.2 := by
  intro asked ended
  have hended : ended = _ := run_send t (c.saveRequest link id value version) _ outside
  have hasked : asked = t.send (c.saveRequest link id value version) outside := rfl
  rw [hended, ← hasked]
  cases asked.1 with
  | error text => exact ⟨.broken text, rfl⟩
  | ok r =>
      simp only [Attempt.run_lift]
      exact ⟨concludes_readSave r, trivial⟩

namespace Concludes

variable {exchange : Except String Reply} {ended : Except Failure SaveOutcome}

/-- An outcome is the only end. -/
theorem unique {outcome : SaveOutcome} (h : Concludes exchange (.ok outcome))
    (h' : Concludes exchange ended) : ended = .ok outcome := by
  cases h with
  | broken text =>
      cases h'
      rfl
  | accepted hstatus htells =>
      cases h' with
      | accepted _ htold =>
          obtain ⟨rfl, rfl⟩ := tells_unique htells htold
          rfl
      | garbled hgarbled => grind [Reply.Garbled]
      | conflict | locked | unknown | other => grind
  | conflict hstatus htells =>
      cases h' with
      | conflict _ htold =>
          obtain ⟨rfl, rfl⟩ := tells_unique htells htold
          rfl
      | garbled hgarbled => grind [Reply.Garbled]
      | accepted | locked | unknown | other => grind
  | locked | unknown | other =>
      cases h' with
      | garbled hgarbled => grind [Reply.Garbled]
      | accepted | conflict | locked | unknown | other => grind

/-- A save ends without an outcome just if the reply is garbled. -/
theorem error_iff (h : Concludes exchange ended) :
    (∃ failure, ended = .error failure) ↔ ∃ r, exchange = .ok r ∧ r.Garbled := by
  constructor
  · rintro ⟨failure, rfl⟩
    cases h with
    | garbled hgarbled => exact ⟨_, rfl, hgarbled⟩
  · rintro ⟨r, rfl, hgarbled⟩
    cases ended with
    | error failure => exact ⟨failure, rfl⟩
    | ok outcome => cases h.unique (.garbled hgarbled (Or.inl rfl))

theorem accepted_iff (h : Concludes exchange ended) (version updatedAt : Json) :
    ended = .ok (.accepted version updatedAt) ↔
      ∃ r n, exchange = .ok r ∧ r.status = 200 ∧ r.Tells "version" n updatedAt ∧
        version = .int n := by
  constructor
  · rintro rfl
    cases h with
    | accepted hstatus htells => exact ⟨_, _, rfl, hstatus, htells, rfl⟩
  · rintro ⟨r, n, rfl, hstatus, htells, rfl⟩
    exact Concludes.unique (.accepted hstatus htells) h

theorem conflict_iff (h : Concludes exchange ended) (version updatedAt : Json) :
    ended = .ok (.conflict ⟨version, updatedAt⟩) ↔
      ∃ r n, exchange = .ok r ∧ r.status = 409 ∧ r.Tells "server_version" n updatedAt ∧
        version = .int n := by
  constructor
  · rintro rfl
    cases h with
    | conflict hstatus htells => exact ⟨_, _, rfl, hstatus, htells, rfl⟩
  · rintro ⟨r, n, rfl, hstatus, htells, rfl⟩
    exact Concludes.unique (.conflict hstatus htells) h

end Concludes

end Client

end Remote

namespace FillSession

open Remote (Client Transport Reply)

variable {σ : Type} {store : AnswerStore σ} {link q value : Json} {s : FillSession}

/-- The versions after an answer that ended so: an accepted save sets the one of its field. -/
def advanced (versions : Fields Json) (q : Json) : Except Failure SaveOutcome → Fields Json
  | .ok (.accepted version _) => versions.set q version
  | _ => versions

theorem versions_record (s : FillSession) (q : Json) (outcome : SaveOutcome) :
    (s.record q outcome).versions = advanced s.versions q (.ok outcome) := by
  cases outcome <;> rfl

/-- What becomes of an answer, by how its save ends: the session raises what the save raises and
moves a version where the save was accepted. -/
theorem setAnswer_ends (store : AnswerStore σ) (link q value : Json) (s : FillSession)
    (outside : σ) :
    let saved := ((store.save link q value (s.version q)).run outside).1
    let ended := (setAnswer store link q value).run (s, outside)
    ((∃ failure, ended.1 = .error failure) ↔
        ¬ s.Takes q ∨ ((∃ p, s.Asks q p) ∧ ∃ failure, saved = .error failure)) ∧
      (∀ version updatedAt, ended.1 = .ok (.accepted version updatedAt) ↔
        (∃ p, s.Asks q p) ∧ saved = .ok (.accepted version updatedAt)) ∧
      ended.2.1.versions = advanced s.versions q ended.1 := by
  intro saved ended
  by_cases htakes : s.Takes q
  · by_cases hasks : ∃ p, s.Asks q p
    · obtain ⟨p, hp⟩ := hasks
      have hended : ended = _ := run_setAnswer_of_asks hp outside
      have hsaved : saved = ((store.save link q value (s.version q)).run outside).1 := rfl
      cases hrun : (store.save link q value (s.version q)).run outside with
      | mk outcome after =>
          rw [hrun] at hended hsaved
          rw [hended, hsaved]
          cases outcome with
          | error failure => exact ⟨by simpa [htakes] using ⟨p, hp⟩, by simp, rfl⟩
          | ok outcome =>
              refine ⟨by simp [htakes], fun version updatedAt => ?_, versions_record _ q outcome⟩
              exact ⟨fun h => ⟨⟨p, hp⟩, h⟩, fun h => h.2⟩
    · obtain ⟨reason, message, hended⟩ := htakes.rejects hasks store link value outside
      rw [show ended = _ from hended]
      exact ⟨by simp [htakes, hasks], by simp [hasks], rfl⟩
  · obtain ⟨failure, hended⟩ := raises_of_not_takes htakes store link value outside
    rw [show ended = _ from hended]
    have hasks : ¬ ∃ p, s.Asks q p := fun ⟨p, hp⟩ => htakes hp.takes
    exact ⟨by simp [htakes], by simp [hasks], rfl⟩

end FillSession

namespace Remote

namespace Client

variable {σ : Type}

/-- **What a save over a transport ends with.**  Whatever comes back, one request is sent.  The
save raises just if the reply is garbled, that is, if by its status 200 or 409 it tells a version
and its body is no record with a whole number there; a connection that breaks and any other reply
is an outcome.  It is accepted, or meets a conflict, just with the version that such a body tells.
So an answer in a session on the server raises, once its arguments are in order, just if it is sent
and the reply is garbled; and the versions of the session change only where a reply of status 200
tells one, to the one it tells. -/
theorem save_raises_iff_garbled (c : Client) (t : Transport σ) (link q value : Json)
    (outside : σ) :
    (∀ version : Json,
      let asked := (t.send (c.saveRequest link q value version)).run outside
      let ended := (c.save t link q value version).run outside
      ended.2 = asked.2 ∧
        ((∃ failure, ended.1 = .error failure) ↔ ∃ r, asked.1 = .ok r ∧ r.Garbled) ∧
        (∀ stored updatedAt, ended.1 = .ok (.accepted stored updatedAt) ↔
          ∃ r n, asked.1 = .ok r ∧ r.status = 200 ∧ r.Tells "version" n updatedAt ∧
            stored = .int n) ∧
        ∀ newer updatedAt, ended.1 = .ok (.conflict ⟨newer, updatedAt⟩) ↔
          ∃ r n, asked.1 = .ok r ∧ r.status = 409 ∧ r.Tells "server_version" n updatedAt ∧
            newer = .int n) ∧
      ∀ s : FillSession,
        let asked := (t.send (c.saveRequest link q value (s.version q))).run outside
        let ended := (FillSession.setAnswer (c.store t) link q value).run (s, outside)
        ((∃ failure, ended.1 = .error failure) ↔
            ¬ s.Takes q ∨ ((∃ p, s.Asks q p) ∧ ∃ r, asked.1 = .ok r ∧ r.Garbled)) ∧
          (∀ stored updatedAt, ended.1 = .ok (.accepted stored updatedAt) ↔
            (∃ p, s.Asks q p) ∧ ∃ r n, asked.1 = .ok r ∧ r.status = 200 ∧
              r.Tells "version" n updatedAt ∧ stored = .int n) ∧
          ended.2.1.versions = FillSession.advanced s.versions q ended.1 := by
  refine ⟨fun version => ?_, fun s => ?_⟩
  · obtain ⟨hends, houtside⟩ := concludes_save c t link q value version outside
    exact ⟨houtside, hends.error_iff, hends.accepted_iff, hends.conflict_iff⟩
  · obtain ⟨hends, -⟩ := concludes_save c t link q value (s.version q) outside
    obtain ⟨hraises, haccepted, hversions⟩ :=
      FillSession.setAnswer_ends (c.store t) link q value s outside
    refine ⟨hraises.trans ?_, fun stored updatedAt => (haccepted stored updatedAt).trans ?_,
      hversions⟩
    · exact or_congr_right (and_congr_right fun _ => hends.error_iff)
    · exact and_congr_right fun _ => hends.accepted_iff stored updatedAt

/-- A page that some other program answers with, an empty record, and a version that is none. -/
theorem save_raises_on_foreign_bodies :
    let saved (r : Reply) := ((ofUrl "http://localhost").save (.always (.ok r))
      (.str "abcd") (.str "q1") (.str "yes") (.int 3)).run ()
    saved ⟨200, "ok"⟩ = (.error .notJson, ()) ∧
      saved ⟨409, "\x7b\x7d"⟩ = (.error (.misfit .member), ()) ∧
      saved ⟨200, "[1]"⟩ = (.error (.misfit .kind), ()) :=
  ⟨rfl, rfl, rfl⟩

end Client

end Remote

end Questionnaire
