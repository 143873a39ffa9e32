/-
A server far away as a place that keeps answers.

A session may keep its answers at the service in its own program, or ask a server for the same.
What the service answers is put into a status and a body, and what the client makes of these is
the answer again: a payload as it was, an outcome with its kind, version, time and reason, a
failure by its meaning.  Only a version that a column can no longer count, which the service tells
as a double, is told by the client as the whole number that equals it, `Json.asWhole`.  So a session
does not see which of the two it asks, whatever it calls.
-/
import Questionnaire.Proofs.Fill.Mirrored
import Questionnaire.Proofs.Remote.Exchange
import Questionnaire.Proofs.Remote.Fetching
import Questionnaire.Proofs.Service.Intact

namespace Questionnaire

open Api (Settings Surroundings Wish IsLink loopback replyOf responseTo)

/-! ### Versions -/

namespace Json

open Decimal (Double)

/-- A double without a fraction as the whole number that it equals. -/
def asWhole : Json → Json
  | .float (.finite x) =>
    if (Double.finite x).equalInt (Double.truncate x) then .int (Double.truncate x)
    else .float (.finite x)
  | v => v

/-- What is told in this way is the same number. -/
theorem asWhole_eq (v : Json) :
    v.asWhole = v ∨ ∃ n, v.asWhole = .int n ∧ v.equal (.int n) = true := by
  unfold asWhole
  split
  case h_1 x =>
    split
    case isTrue h => exact Or.inr ⟨_, rfl, h⟩
    case isFalse => exact Or.inl rfl
  case h_2 => exact Or.inl rfl

end Json

theorem Number.Counted.asWhole_toJson {v : Number} (h : v.Counted) :
    v.toJson.asWhole = .int v.writes := by
  obtain ⟨n, rfl, -, -⟩ | rfl := h.whole_or_beyond
  · rfl
  · show (Json.float (Decimal.Double.ofInt (2 ^ 63))).asWhole = .int (2 ^ 63)
    rw [Number.ofInt_bound, Json.asWhole, if_pos (by decide +kernel)]
    exact congrArg Json.int (by decide)

namespace Remote.Client

variable {σ : Type} {c : Client} {scheme link : String} {server name : List Char} {s : Service}

/-! ### What replies mean -/

theorem readReply_json {v : Json} (hv : v.Writable) :
    readReply (replyOf (.json v)) = .done (.ok v) := by
  have hstatus : (replyOf (.json v)).status = 200 := rfl
  have hok : (replyOf (.json v)).isOk = true := by
    rw [Reply.isOk, hstatus]
    decide
  rw [readReply, hstatus, hok, Api.json_replyOf hv]
  rfl

theorem readReply_notFound (key : Json) :
    readReply (replyOf (Api.ofFailure (.notFound "Questionnaire" key))) =
      .done (.error (.notFound "Questionnaire" .null)) := rfl

theorem readSubmit_success : readSubmit (replyOf (Api.success [])) = .ok () := rfl

theorem readSubmit_notFound (key : Json) :
    readSubmit (replyOf (Api.ofFailure (.notFound "Questionnaire" key))) =
      .error (.notFound "Questionnaire" .null) := rfl

theorem readSubmit_alreadySubmitted {message : String} (h : message ≠ "") :
    readSubmit (replyOf (Api.ofFailure (.alreadySubmitted message))) =
      .error (.alreadySubmitted message) := by
  have hstatus : (replyOf (Api.ofFailure (.alreadySubmitted message))).status = 403 := rfl
  rw [readSubmit, hstatus, if_pos rfl, Api.ofFailure, Api.complaint_problem .locked h]

/-- The body that tells a version. -/
def versionBody (flag name : String) (v : Number) (m : Moment) : Json :=
  .obj [(flag, .bool true), (name, v.toJson), ("updated_at", .str m.iso)]

theorem writable_versionBody {flag name : String} (h : [flag, name, "updated_at"].Nodup)
    {v : Number} (hv : v.Counted) (m : Moment) : (versionBody flag name v m).Writable := by
  rw [versionBody, Json.writable_obj]
  exact ⟨h, by simp [Json.writable_bool, hv.writable, Json.writable_str]⟩

/-- A version is read as the whole number that it stands for. -/
theorem versionIn_versionBody {flag name : String} (h : [flag, name, "updated_at"].Nodup)
    {v : Number} (hv : v.Counted) (m : Moment) :
    versionIn name (versionBody flag name v m) = .ok (v.writes, .str m.iso) := by
  simp only [List.nodup_cons, List.mem_cons, List.not_mem_nil, or_false, not_or] at h
  obtain ⟨⟨hname, hflag⟩, hlast, -⟩ := h
  have hversion : List.lookup name [(flag, .bool true), (name, v.toJson),
      ("updated_at", Json.str m.iso)] = some v.toJson := by
    simp [List.lookup_cons, beq_eq_false_iff_ne.mpr (Ne.symm hname)]
  have htime : (versionBody flag name v m).getD "updated_at" = .str m.iso := by
    simp [versionBody, Json.getD, Json.get?, Json.members, Entries.get?_cons, Ne.symm hflag,
      Ne.symm hlast]
  simp only [versionBody] at htime ⊢
  simp only [versionIn, hversion, hv.whole_toJson, htime]
  rfl

variable {r : Reply} {body : Json}

theorem readSave_of_accepted (h : r.status = 200) (hvalue : r.value = .ok body) {n : Int}
    {updatedAt : Json} (hversion : versionIn "version" body = .ok (n, updatedAt)) :
    readSave r = .ok (.accepted (.int n) updatedAt) := by
  rw [readSave, if_pos h, hvalue]
  show (versionIn "version" body >>= _) = _
  rw [hversion]
  rfl

theorem readSave_of_conflict (h : r.status = 409) (hvalue : r.value = .ok body) {n : Int}
    {updatedAt : Json} (hversion : versionIn "server_version" body = .ok (n, updatedAt)) :
    readSave r = .ok (.conflict ⟨.int n, updatedAt⟩) := by
  rw [readSave, if_neg (by rw [h]; decide), if_pos h, hvalue]
  show (versionIn "server_version" body >>= _) = _
  rw [hversion]
  rfl

theorem readSave_of_locked (h : r.status = 403) :
    readSave r = .ok (.rejected .locked (.str r.complaint)) := by
  rw [readSave, if_neg (by rw [h]; decide), if_neg (by rw [h]; decide), if_pos h]
  rfl

theorem readSave_of_unknown (h : r.status = 404) :
    readSave r = .ok (.rejected .unknownLink (.str r.complaint)) := by
  rw [readSave, if_neg (by rw [h]; decide), if_neg (by rw [h]; decide),
    if_neg (by rw [h]; decide), if_pos h]
  rfl

/-- **An outcome that is replied is read with its kind, version, time, reason and message.** -/
theorem readSave_saved {outcome : SaveOutcome} (h : Service.Answered outcome) :
    readSave (replyOf (Api.saved outcome)) = .ok (outcome.told Json.asWhole) := by
  cases h with
  | @accepted v hv m =>
      have hnames : ["success", "version", "updated_at"].Nodup := by decide
      rw [SaveOutcome.told, hv.asWhole_toJson]
      exact readSave_of_accepted rfl (Api.value_replyOf (writable_versionBody hnames hv m) 200)
        (versionIn_versionBody hnames hv m)
  | @conflict v hv m =>
      have hnames : ["conflict", "server_version", "updated_at"].Nodup := by decide
      rw [SaveOutcome.told, hv.asWhole_toJson]
      exact readSave_of_conflict rfl (Api.value_replyOf (writable_versionBody hnames hv m) 409)
        (versionIn_versionBody hnames hv m)
  | locked =>
      have hread := readSave_of_locked
        (r := replyOf (Api.problem .locked "Questionnaire is locked")) rfl
      rw [Api.complaint_problem .locked (by decide)] at hread
      exact hread
  | unknown =>
      have hread := readSave_of_unknown
        (r := replyOf (Api.problem .notFound "Questionnaire not found")) rfl
      rw [Api.complaint_problem .notFound (by decide)] at hread
      exact hread

/-! ### Calls -/

open FillSession (Call)

/-- What a call sends, if it sends anything, is within the bounds of both places: a field goes by a
text, its value can be read back, its version fits a column, and the body is let through. -/
def InBounds (settings : Settings) (session : FillSession) : Call → Prop
  | .load => True
  | .answer q value => (∃ p, session.Asks q p) → ∃ name n, q = .str name ∧ value.Writable ∧
    session.version q = .int n ∧ Database.fits n = true ∧
      settings.Admits (saveBody q value (.int n))
  | .submit => settings.Admits (.obj [])

/-- Every call of a run on the service sends what is within bounds. -/
def RunsInBounds (settings : Settings) (link : String) : FillSession × Service → List Call → Prop
  | _, [] => True
  | both, call :: calls => InBounds settings both.1 call ∧
    RunsInBounds settings link (call.after Service.store (.str link) both) calls

/-- The two places go on with the same service. -/
def SameService (s s' : Service) : Prop := s' = s ∧ s.Intact

/-! ### The requests -/

section Requests

variable (hc : c.Reaches scheme server name) (hlink : IsLink link) (hs : s.Intact)
  (settings : Settings) (around : Surroundings)

include hc hlink hs

/-- **Fetching gives what the service hands out**, or fails as it does. -/
theorem run_fetch :
    ((c.store (loopback settings around)).fetch (.str link)).run s =
      (Service.store.fetch (.str link)).run s := by
  have hlocal : (Service.store.fetch (.str link)).run s = (s.tables.handed (.str link), s) :=
    Service.run_respondent (.str link) s
  have hsend := Api.send_fill hc hlink settings around s
  rw [hs.settled.rollback] at hsend
  obtain ⟨left, hleft⟩ : ∃ left, (c.retries + 1).toNat = left + 1 :=
    ⟨c.retries.toNat, by have := hc.tries; omega⟩
  show (fetchIn _ (c.url link) 0 {} (c.retries + 1).toNat).run s = _
  rw [hlocal, hleft]
  rcases hs.tables.handed link with ⟨payload, hhanded, hpayload⟩ | hnone
  · rw [hhanded] at hsend ⊢
    have hread : readExchange {} ((loopback settings around).send (.get (c.url link)) s).1 =
        .done (.ok payload) := by
      rw [hsend]
      exact readReply_json hpayload
    rw [run_fetchIn 0 left hread, hsend]
  · rw [hnone] at hsend ⊢
    have hread : readExchange {} ((loopback settings around).send (.get (c.url link)) s).1 =
        .done (.error (.notFound "Questionnaire" .null)) := by
      rw [hsend]
      exact readReply_notFound .null
    rw [run_fetchIn 0 left hread, hsend]

/-- **Saving at a server does what the service does, and its outcome is the outcome there.** -/
theorem run_save {q : String} (hq : q ≠ "") {value : Json} (hvalue : value.Writable) {n : Int}
    (hfits : Database.fits n = true) (h : settings.Admits (saveBody (.str q) value (.int n))) :
    ∃ outcome after,
      (Service.store.save (.str link) (.str q) value (.int n)).run s = (.ok outcome, after) ∧
        after.Intact ∧
        ((c.store (loopback settings around)).save (.str link) (.str q) value (.int n)).run s =
          (.ok (outcome.told Json.asWhole), after) := by
  obtain ⟨outcome, after, hsave, hanswered, hafter⟩ := hs.run_save link hq value hfits
  have hbody : (saveBody (.str q) value (.int n)).Writable := by
    rw [saveBody, Json.writable_obj]
    exact ⟨by simp, by simp [Json.writable_str, hvalue, Json.writable_int hfits]⟩
  have hsend := Api.send_save hc hlink hq hbody h around hsave
  rw [hafter.settled.rollback] at hsend
  refine ⟨outcome, after, hsave, hafter, ?_⟩
  show (c.save _ (.str link) (.str q) value (.int n)).run s = _
  rw [Client.save, run_send]
  simp only [Json.words, hsend]
  rw [Attempt.run_lift]
  exact Prod.ext (readSave_saved hanswered) rfl

/-- **Submitting at a server does what the service does**, or fails as it does. -/
theorem run_submit (h : settings.Admits (.obj [])) :
    ((c.store (loopback settings around)).submit (.str link)).run s =
      (Service.store.submit (.str link)).run s := by
  obtain ⟨outcome, after, hsubmit, hafter, houtcome⟩ := hs.run_submit link
  have hsend := Api.send_submit hc hlink h around hsubmit
  rw [hafter.settled.rollback] at hsend
  show (c.submit _ (.str link)).run s = _
  rw [Client.submit, run_send]
  simp only [Json.words, hsend]
  rw [Attempt.run_lift, hsubmit]
  refine Prod.ext ?_ rfl
  rcases houtcome with rfl | rfl | rfl
  · exact readSubmit_success
  · exact readSubmit_notFound .null
  · exact readSubmit_alreadySubmitted (by decide)

/-! ### Sessions -/

variable {session : FillSession} {call : Call}

/-- Each request of a call is answered alike. -/
theorem echoed (h : InBounds settings session call) :
    call.Echoed Service.store (c.store (loopback settings around)) (.str link) SameService
      Json.asWhole session s s := by
  cases call with
  | load =>
      have hfetch := run_fetch hc hlink hs settings around
      have hlocal : (Service.store.fetch (.str link)).run s = (s.tables.handed (.str link), s) :=
        Service.run_respondent (.str link) s
      refine ⟨?_, ?_⟩
      · rw [hfetch]
        cases ((Service.store.fetch (.str link)).run s).1 <;> rfl
      · rw [hfetch, hlocal]
        exact ⟨rfl, hs⟩
  | answer q value =>
      rintro ⟨p, hasks⟩
      obtain ⟨name, n, rfl, hvalue, hversion, hfits, hadmits⟩ := h ⟨p, hasks⟩
      have hname : name ≠ "" := of_decide_eq_true hasks.named
      obtain ⟨outcome, after, hsave, hafter, hremote⟩ :=
        run_save hc hlink hs settings around hname hvalue hfits hadmits
      rw [hversion, show Json.asWhole (.int n) = .int n from rfl, hsave, hremote]
      exact ⟨rfl, rfl, hafter⟩
  | submit =>
      have hsubmit := run_submit hc hlink hs settings around h
      obtain ⟨outcome, after, hlocal, hafter, -⟩ := hs.run_submit link
      rw [hlocal] at hsubmit
      refine ⟨?_, ?_⟩
      · rw [hsubmit, hlocal]
        cases outcome <;> rfl
      · rw [hsubmit, hlocal]
        exact ⟨rfl, hafter⟩

/-- **A session on the server is what it is on the service**, whatever is called. -/
theorem run_mirrored {calls : List Call} (h : RunsInBounds settings link (session, s) calls) :
    let both := FillSession.run Service.store (.str link) calls (session, s)
    FillSession.run (c.store (loopback settings around)) (.str link) calls
        (session.told Json.asWhole, s) = (both.1.told Json.asWhole, both.2) := by
  induction calls generalizing session s with
  | nil => rfl
  | cons call calls ih =>
      obtain ⟨hcall, hcalls⟩ := h
      obtain ⟨hsession, hservice, hafter⟩ := FillSession.mirrored_after (fun _ => rfl)
        (R := SameService) ⟨rfl, hs⟩ (echoed hc hlink hs settings around hcall)
      have hcalled : call.after (c.store (loopback settings around)) (.str link)
          (session.told Json.asWhole, s) =
          ((call.after Service.store (.str link) (session, s)).1.told Json.asWhole,
            (call.after Service.store (.str link) (session, s)).2) := Prod.ext hsession hservice
      show FillSession.run _ _ calls (call.after _ _ (session.told Json.asWhole, s)) = _
      rw [hcalled]
      exact ih hafter hcalls

end Requests

/-- A service with one questionnaire, which is open, under a link of hexadecimal digits. -/
def hexOpen : Service :=
  Service.oneOpen.withTables
    { Service.oneOpen.rows with
      instances := Service.oneOpen.rows.instances.map ({ · with link := "a1" }) }

theorem intact_hexOpen : hexOpen.Intact where
  settled := rfl
  tables :=
    { once := List.nodup_nil
      counted := fun _ ha => nomatch ha
      backed := by decide +kernel
      ids := by decide +kernel
      revisions := by decide +kernel }

theorem reaches_localhost :
    (ofUrl "http://localhost").Reaches "http" "localhost".toList "localhost".toList where
  base := by decide +kernel
  path := by decide +kernel
  tries := by decide
  known := Or.inl rfl
  called := by decide
  plain := Text.forall_of_all (by decide +kernel)
  readable := by decide +kernel
  named := eq_ok_of_toOption (by decide +kernel)
  labelled := by decide +kernel

end Remote.Client

end Questionnaire
