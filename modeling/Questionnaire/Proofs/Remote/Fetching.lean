/-
How often a client asks for a questionnaire, and how long it waits in between.

What comes back on a request is final, `Settles`, or it may pass, `Passes`: a connection that
breaks, a fault of the server, and a reply without complaint whose text is no value.  A client asks
until something final comes back, at most once more than it may try again.  The transport here
follows a script, which says what comes back on each request, and notes what the client does.  The
loop is followed over the attempts that pass, `run_fetchIn_of_passes`: before attempt `k` the client
has asked `k` times and waited after each of them, and it knows the status of the last reply.  The
attempt that is final, or the last one allowed, ends the fetch without a wait.

A status of 600 or more is no complaint to the client.  A reply whose only trouble is a numeral too
long to read, `Overlong`, is neither final nor passing; nothing is said about it here.
-/
import Questionnaire.Proofs.Json.Numbers
import Questionnaire.Proofs.Remote.Saving

namespace Questionnaire.Remote

namespace Client

/-! ### What comes back -/

/-- What comes back ends a fetch, and how. -/
inductive Settles : Except String Reply → Except Failure Json → Prop
  | missing {r : Reply} (h : r.status = 404) :
      Settles (.ok r) (.error (.notFound "Questionnaire" .null))
  | given {r : Reply} {v : Json} (h : r.status < 400 ∨ 600 ≤ r.status) (hv : r.json = .ok v) :
      Settles (.ok r) (.ok v)
  | refused {r : Reply} (hleast : 400 ≤ r.status) (hgreatest : r.status < 500)
      (hother : r.status ≠ 404) : Settles (.ok r) (.error (.remote r.summary (.int r.status)))

/-- What comes back ends a fetch. -/
def Final (exchange : Except String Reply) : Prop := ∃ result, Settles exchange result

/-- What comes back may pass, and the words for it. -/
inductive Passes : Except String Reply → String → Prop
  | broken (text : String) : Passes (.error text) (reason text)
  | fault {r : Reply} (hleast : 500 ≤ r.status) (hgreatest : r.status < 600) :
      Passes (.ok r) r.summary
  | unreadable {r : Reply} {e : Json.SyntaxError} (h : r.status < 400 ∨ 600 ≤ r.status)
      (he : r.json = .error e) (hshort : e.fault ≠ .longNumeral) :
      Passes (.ok r) (reason e.message)

/-- What comes back is a reply without complaint whose text has a numeral too long to read. -/
def Overlong (exchange : Except String Reply) : Prop :=
  ∃ r e, exchange = .ok r ∧ (r.status < 400 ∨ 600 ≤ r.status) ∧ r.json = .error e ∧
    e.fault = .longNumeral

theorem isOk_iff {r : Reply} : r.isOk = true ↔ r.status < 400 ∨ 600 ≤ r.status := by
  simp [Reply.isOk]

/-- The status that is known after an exchange: that of its reply, else the one known before. -/
def statusAfter (before : Json) : Except String Reply → Json
  | .ok r => .int r.status
  | .error _ => before

variable {exchange : Except String Reply} {before : Trouble}

theorem readExchange_of_settles {result : Except Failure Json} (h : Settles exchange result) :
    readExchange before exchange = .done result := by
  cases h with
  | @missing r h => simp [readExchange, readReply, h]
  | @given r v h hv =>
      have hfound : r.status ≠ 404 := by omega
      simp [readExchange, readReply, hfound, isOk_iff.mpr h, hv]
  | @refused r hleast hgreatest hother =>
      have hok : ¬ r.isOk = true := isOk_iff.not.mpr (by omega)
      simp [readExchange, readReply, hother, hok, hgreatest]

theorem readExchange_of_passes {text : String} (h : Passes exchange text) :
    readExchange before exchange = .again ⟨text, statusAfter before.status exchange⟩ := by
  cases h with
  | broken text => rfl
  | @fault r hleast hgreatest =>
      have hfound : r.status ≠ 404 := by omega
      have hok : ¬ r.isOk = true := isOk_iff.not.mpr (by omega)
      have hserver : ¬ r.status < 500 := by omega
      simp [readExchange, readReply, hfound, hok, hserver, statusAfter]
  | @unreadable r e h he hshort =>
      have hfound : r.status ≠ 404 := by omega
      simp [readExchange, readReply, hfound, isOk_iff.mpr h, he, hshort, statusAfter]

/-- What is not final and can be read may pass, and nothing else may. -/
theorem exists_passes_iff :
    (∃ text, Passes exchange text) ↔ ¬ Final exchange ∧ ¬ Overlong exchange := by
  constructor
  · rintro ⟨text, hpasses⟩
    constructor
    · rintro ⟨result, hsettles⟩
      have hdone : readExchange {} exchange = .done result := readExchange_of_settles hsettles
      rw [readExchange_of_passes hpasses] at hdone
      cases hdone
    · rintro ⟨r, e, rfl, hok, he, hlong⟩
      cases hpasses with
      | fault hleast hgreatest => omega
      | unreadable h he' hshort =>
          rw [he] at he'
          cases he'
          exact hshort hlong
  · rintro ⟨hfinal, hread⟩
    cases exchange with
    | error text => exact ⟨_, .broken text⟩
    | ok r =>
        by_cases hok : r.status < 400 ∨ 600 ≤ r.status
        · cases hjson : r.json with
          | ok v => exact absurd ⟨_, .given hok hjson⟩ hfinal
          | error e =>
              refine ⟨_, .unreadable hok hjson ?_⟩
              intro hlong
              exact hread ⟨r, e, rfl, hok, hjson, hlong⟩
        · by_cases hfault : 500 ≤ r.status
          · exact ⟨_, .fault hfault (by omega)⟩
          · exfalso
            apply hfinal
            by_cases hmissing : r.status = 404
            · exact ⟨_, .missing hmissing⟩
            · exact ⟨_, .refused (by omega) (by omega) hmissing⟩

/-- The words for what may pass are settled by what came back. -/
theorem Passes.unique {text other : String} (h : Passes exchange text)
    (h' : Passes exchange other) : text = other := by
  have hagain : readExchange {} exchange = .again _ := readExchange_of_passes h
  rw [readExchange_of_passes h'] at hagain
  cases hagain
  rfl

/-! ### Attempts over any transport -/

section Attempts

variable {σ : Type} {t : Transport σ} {url : String} {trouble : Trouble} {outside : σ}

/-- A final reply ends the fetch. -/
theorem run_fetchIn {result : Except Failure Json} (made left : Nat)
    (h : readExchange trouble (t.send (.get url) outside).1 = .done result) :
    (fetchIn t url made trouble (left + 1)).run outside =
      (result, (t.send (.get url) outside).2) := by
  rw [fetchIn, run_send, h]
  exact Attempt.run_lift _ _

/-- After trouble that may pass, the client waits and goes on, if attempts are left. -/
theorem run_fetchIn_again {later : Trouble} (made left : Nat)
    (h : readExchange trouble (t.send (.get url) outside).1 = .again later) :
    (fetchIn t url made trouble (left + 2)).run outside =
      (fetchIn t url (made + 1) later (left + 1)).run
        (t.pause (backoff made) (t.send (.get url) outside).2).2 := by
  rw [fetchIn, run_send, h]
  rfl

/-- After the last attempt the client does not wait. -/
theorem run_fetchIn_last {later : Trouble} (made : Nat)
    (h : readExchange trouble (t.send (.get url) outside).1 = .again later) :
    (fetchIn t url made trouble 1).run outside =
      (.error (.remote later.message later.status), (t.send (.get url) outside).2) := by
  rw [fetchIn, run_send, h]
  rfl

end Attempts

end Client

/-! ### A script -/

/-- One thing that a client does. -/
inductive Move
  | sends (request : Request)
  | waits (seconds : Nat)

namespace Move

/-- The request that is sent, if one is. -/
def request? : Move → Option Request
  | .sends request => some request
  | .waits _ => none

/-- How long is waited, if it is waited. -/
def seconds? : Move → Option Nat
  | .sends _ => none
  | .waits seconds => some seconds

@[simp] theorem request?_sends (request : Request) : (sends request).request? = some request := rfl

@[simp] theorem request?_waits (seconds : Nat) : (waits seconds).request? = none := rfl

@[simp] theorem seconds?_sends (request : Request) : (sends request).seconds? = none := rfl

@[simp] theorem seconds?_waits (seconds : Nat) : (waits seconds).seconds? = some seconds := rfl

end Move

/-- A transport on which one exchange after another comes back, as a script says; what the client
does is noted. -/
def Transport.scripted (script : Nat → Except String Reply) : Transport (List Move) where
  send := fun request noted =>
    (script (noted.filterMap Move.request?).length, noted ++ [.sends request])
  pause := fun seconds noted => ((), noted ++ [.waits seconds])

namespace Client

variable {script : Nat → Except String Reply} {url : String}

/-- The waits of a client that asks again so many times. -/
def pauses : Nat → List Nat
  | 0 => []
  | again + 1 => 1 :: List.replicate again 4

@[simp] theorem length_pauses (again : Nat) : (pauses again).length = again := by
  cases again with
  | zero => rfl
  | succ again => simp [pauses]

theorem pauses_succ (again : Nat) : pauses (again + 1) = pauses again ++ [backoff again] := by
  cases again with
  | zero => rfl
  | succ again => simp [pauses, backoff, List.replicate_succ']

/-- Asks and waits in turn. -/
def rounds (url : String) (waits : List Nat) : List Move :=
  waits.flatMap fun seconds => [.sends (.get url), .waits seconds]

theorem rounds_cons (url : String) (seconds : Nat) (waits : List Nat) :
    rounds url (seconds :: waits) = .sends (.get url) :: .waits seconds :: rounds url waits := rfl

@[simp] theorem request?_rounds (url : String) (waits : List Nat) :
    (rounds url waits).filterMap Move.request? = List.replicate waits.length (.get url) := by
  induction waits with
  | nil => rfl
  | cons seconds waits ih => simp [rounds_cons, ih, List.filterMap_cons, List.replicate_succ]

@[simp] theorem seconds?_rounds (url : String) (waits : List Nat) :
    (rounds url waits).filterMap Move.seconds? = waits := by
  induction waits with
  | nil => rfl
  | cons seconds waits ih => simp [rounds_cons, ih, List.filterMap_cons]

/-- What a client does that asks once and then so many times again: it waits before each further
request and nowhere else. -/
structure Asks (url : String) (again : Nat) (noted : List Move) : Prop where
  requests : noted.filterMap Move.request? = List.replicate (again + 1) (.get url)
  waits : noted.filterMap Move.seconds? = pauses again
  order : noted = rounds url (pauses again) ++ [.sends (.get url)]

theorem asks_rounds (url : String) (again : Nat) :
    Asks url again (rounds url (pauses again) ++ [.sends (.get url)]) where
  requests := by simp [List.replicate_succ']
  waits := by simp [List.filterMap_cons]
  order := rfl

/-- The status of the last reply among the first so many exchanges, null if there is none. -/
def lastStatus (script : Nat → Except String Reply) : Nat → Json
  | 0 => .null
  | k + 1 => statusAfter (lastStatus script k) (script k)

theorem send_rounds (script : Nat → Except String Reply) (url : String) (k : Nat) :
    (Transport.scripted script).send (.get url) (rounds url (pauses k)) =
      (script k, rounds url (pauses k) ++ [.sends (.get url)]) := by
  simp [Transport.scripted]

theorem pause_rounds (script : Nat → Except String Reply) (url : String) (k : Nat) :
    ((Transport.scripted script).pause (backoff k)
      (rounds url (pauses k) ++ [.sends (.get url)])).2 = rounds url (pauses (k + 1)) := by
  simp [Transport.scripted, pauses_succ, rounds]

/-- **While what comes back may pass, the client asks and waits in turn.** -/
theorem run_fetchIn_of_passes (url : String) {k : Nat}
    (h : ∀ i < k, ∃ text, Passes (script i) text) (left : Nat) :
    ∃ trouble : Trouble, trouble.status = lastStatus script k ∧
      (fetchIn (.scripted script) url 0 {} (k + left + 1)).run [] =
        (fetchIn (.scripted script) url k trouble (left + 1)).run (rounds url (pauses k)) := by
  induction k generalizing left with
  | zero => exact ⟨{}, rfl, by rw [Nat.zero_add]; rfl⟩
  | succ k ih =>
      obtain ⟨trouble, hstatus, hrun⟩ := ih (fun i hi => h i (by omega)) (left + 1)
      obtain ⟨text, htext⟩ := h k (by omega)
      have hread : readExchange trouble (script k) = .again _ := readExchange_of_passes htext
      have hagain : (fetchIn (.scripted script) url k trouble (left + 2)).run
          (rounds url (pauses k)) = _ :=
        run_fetchIn_again k left (by rw [send_rounds]; exact hread)
      rw [send_rounds, pause_rounds] at hagain
      refine ⟨⟨text, statusAfter trouble.status (script k)⟩, by rw [hstatus]; rfl, ?_⟩
      rw [show k + 1 + left + 1 = k + (left + 1) + 1 by omega, hrun]
      exact hagain

/-- The first final exchange ends the fetch. -/
theorem run_fetchIn_of_settles (url : String) {k : Nat}
    (h : ∀ i < k, ∃ text, Passes (script i) text) (left : Nat) {result : Except Failure Json}
    (hresult : Settles (script k) result) :
    (fetchIn (.scripted script) url 0 {} (k + left + 1)).run [] =
      (result, rounds url (pauses k) ++ [.sends (.get url)]) := by
  obtain ⟨trouble, -, hrun⟩ := run_fetchIn_of_passes url h left
  rw [hrun, run_fetchIn k left (by rw [send_rounds]; exact readExchange_of_settles hresult),
    send_rounds]

/-- If every exchange may pass, the fetch fails with the words for the last one. -/
theorem run_fetchIn_of_all_pass (url : String) {k : Nat}
    (h : ∀ i < k, ∃ text, Passes (script i) text) {text : String}
    (htext : Passes (script k) text) :
    (fetchIn (.scripted script) url 0 {} (k + 1)).run [] =
      (.error (.remote text (lastStatus script (k + 1))),
        rounds url (pauses k) ++ [.sends (.get url)]) := by
  obtain ⟨trouble, hstatus, hrun⟩ := run_fetchIn_of_passes url h 0
  have hread : readExchange trouble (script k) = .again _ := readExchange_of_passes htext
  rw [Nat.add_zero] at hrun
  rw [hrun, run_fetchIn_last k (by rw [send_rounds]; exact hread), send_rounds, hstatus]
  rfl

/-- **A client asks until something final comes back.**  Let it be allowed to try again `n` times,
and let any exchanges come back, one after another.  If what comes back on request `k`, counted from
zero, is final, and everything before may pass and can be read, then the fetch ends with what that
means: nothing is there, the value is, or the server complains with its status and words.  The
client has asked `k + 1` times and waited `k` times, before each further request and not after the
last, at first for one second and then for four.  If none of the `n + 1` exchanges is final, and
each can be read, it has asked `n + 1` times and fails with the words for the last one and the
status of the last reply. -/
theorem fetch_asks_until_final (c : Client) (link : Json) (script : Nat → Except String Reply)
    {n : Nat} (hretries : c.retries = n) :
    let ended := (c.fetch (.scripted script) link).run []
    let url := c.url link.words
    (∀ k ≤ n, (∀ i < k, ¬ Final (script i) ∧ ¬ Overlong (script i)) →
      ∀ result, Settles (script k) result → ended.1 = result ∧ Asks url k ended.2) ∧
    ((∀ i ≤ n, ¬ Final (script i) ∧ ¬ Overlong (script i)) →
      ∃ text, Passes (script n) text ∧
        ended.1 = .error (.remote text (lastStatus script (n + 1))) ∧ Asks url n ended.2) := by
  intro ended url
  have hended : ended = (fetchIn (.scripted script) url 0 {} (n + 1)).run [] := by
    have htries : (c.retries + 1).toNat = n + 1 := by omega
    show (fetchIn _ _ 0 {} (c.retries + 1).toNat).run [] = _
    rw [htries]
  constructor
  · intro k hk hpasses result hresult
    have hrun := run_fetchIn_of_settles url
      (fun i hi => exists_passes_iff.mpr (hpasses i hi)) (n - k) hresult
    rw [show k + (n - k) + 1 = n + 1 by omega] at hrun
    rw [hended, hrun]
    exact ⟨rfl, asks_rounds url k⟩
  · intro hpasses
    obtain ⟨text, htext⟩ := exists_passes_iff.mpr (hpasses n le_rfl)
    have hrun := run_fetchIn_of_all_pass url
      (fun i hi => exists_passes_iff.mpr (hpasses i (by omega))) htext
    rw [hended, hrun]
    exact ⟨text, htext, rfl, asks_rounds url n⟩

/-- A connection that breaks, then a server that is busy, then a value. -/
def recovering : Nat → Except String Reply
  | 0 => .error "slow"
  | 1 => .ok ⟨503, "busy"⟩
  | _ => .ok ⟨200, "[9]"⟩

/-- A client that may try again twice gets the value with its third request; one that may try
again once fails as the second reply says. -/
theorem fetch_asks_until_final_recovering :
    let fetched (retries : Int) :=
      ((ofUrl "http://localhost" "/api/v1" (.int 10) retries).fetch (.scripted recovering)
        (.str "abcd")).run []
    let url := "http://localhost/api/v1/fill/abcd"
    ((fetched 2).1 = .ok (.arr [.int 9]) ∧ Asks url 2 (fetched 2).2) ∧
      (fetched 1).1 = .error (.remote "HTTP 503: busy" (.int 503)) ∧ Asks url 1 (fetched 1).2 := by
  have hbroken : Passes (recovering 0) (reason "slow") := .broken "slow"
  have hbusy : Passes (recovering 1) "HTTP 503: busy" := .fault (by decide) (by decide)
  have hvalue : Settles (recovering 2) (.ok (.arr [.int 9])) := .given (by decide) rfl
  have hpasses : ∀ i < 2, ¬ Final (recovering i) ∧ ¬ Overlong (recovering i) := by
    intro i hi
    apply exists_passes_iff.mp
    obtain rfl | rfl : i = 0 ∨ i = 1 := by omega
    · exact ⟨_, hbroken⟩
    · exact ⟨_, hbusy⟩
  have hurl : ∀ retries, (ofUrl "http://localhost" "/api/v1" (.int 10) retries).url
      (Json.str "abcd").words = "http://localhost/api/v1/fill/abcd" := by
    intro retries
    cbv
  intro fetched url
  constructor
  · have hends := (fetch_asks_until_final (ofUrl "http://localhost" "/api/v1" (.int 10) 2)
      (.str "abcd") recovering rfl).1 2 le_rfl hpasses _ hvalue
    rw [hurl] at hends
    exact hends
  · obtain ⟨text, htext, hends⟩ :=
      (fetch_asks_until_final (ofUrl "http://localhost" "/api/v1" (.int 10) 1)
        (.str "abcd") recovering (n := 1) rfl).2 fun i hi => hpasses i (by omega)
    rw [hurl, htext.unique hbusy] at hends
    exact hends

/-- A numeral with too many digits is not read. -/
theorem json_long {r : Reply} {again : Nat} (hlong : Text.maxDigits ≤ again)
    (htext : r.text = String.ofList ('1' :: List.replicate again '1')) :
    ∃ e, r.json = .error e ∧ e.fault = .longNumeral := by
  generalize hdigits : '1' :: List.replicate again '1' = digits at htext
  have hwhole : Json.Whole digits := by
    subst hdigits
    exact ⟨by simp [Json.isDigit], by simp, by simp⟩
  have hlength : ¬ digits.length ≤ Text.maxDigits := by
    rw [← hdigits, List.length_cons, List.length_replicate]
    omega
  have hpart : Json.wholePart? (digits ++ []) = some (digits, []) :=
    Json.wholePart?_append hwhole (by simp)
  rw [List.append_nil] at hpart
  have hhead : digits.head? ≠ some '-' := by simp [← hdigits]
  have hnumber : Json.readNumber digits = .error ⟨.longNumeral, digits⟩ := by
    have hread : Json.readNumber digits = _ := Json.readNumber_signed false hhead
    rw [hread, Json.readMagnitude, hpart]
    simp [Json.fraction, Json.scale, hlength, Json.signed]
  have hvalue : Json.readValue (2 * digits.length + 1) digits = .error ⟨.longNumeral, digits⟩ := by
    rw [← hdigits] at hnumber ⊢
    exact hnumber
  have hskip : Json.skipSpace digits = digits := by
    rw [← hdigits]
    rfl
  have hchars : Json.parseChars digits = .error ⟨.longNumeral, digits⟩ := by
    rw [Json.parseChars, if_neg (by simp [← hdigits]), hskip, hvalue]
    rfl
  rw [Reply.json, htext, Json.parse, String.toList_ofList, hchars]
  exact ⟨_, rfl, rfl⟩

/-- A client that may try again twice takes a reply of status 600 at its first request, and one with
a numeral too long to read ends its fetch with no word of the server's. -/
theorem fetch_past_complaints :
    let c := ofUrl "http://h"
    let fetched (r : Reply) := (c.fetch (.scripted fun _ => .ok r) (.str "a")).run []
    let url := "http://h/api/v1/fill/a"
    c.retries = 2 ∧ fetched ⟨600, "[9]"⟩ = (.ok (.arr [.int 9]), [.sends (.get url)]) ∧
      fetched ⟨200, String.ofList (List.replicate 4301 '1')⟩ =
        (.error (.misfit .content), [.sends (.get url)]) := by
  intro c fetched url
  refine ⟨rfl, rfl, ?_⟩
  have hlong : Text.maxDigits ≤ 4300 := le_rfl
  obtain ⟨e, he, hfault⟩ :=
    json_long (r := ⟨200, String.ofList (List.replicate 4301 '1')⟩) hlong rfl
  have hread : readReply ⟨200, String.ofList (List.replicate 4301 '1')⟩ =
      .done (.error (.misfit .content)) := by
    rw [readReply, he]
    simp [Reply.isOk, hfault]
  exact run_fetchIn 0 2 hread

end Client

end Questionnaire.Remote
