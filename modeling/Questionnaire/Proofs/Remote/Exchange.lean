/-
What a server does with a client's request.

A request for a link passes every guard: it is short enough, it is announced as JSON, and its server
is one that can be asked.  So it is answered by the endpoint of the link, and what the endpoint
did not commit is forgotten: `send_wish`.  A body is read as the value that was sent, and so is a
reply.
-/
import Questionnaire.Proofs.Json.RoundTrip
import Questionnaire.Proofs.Remote.Address
import Questionnaire.Proofs.Service.Instances

namespace Questionnaire

namespace Api

variable {c : Remote.Client} {scheme link url : String} {server name : List Char} {r : Request}
  {s : Settings} {wish : Wish}

/-! ### What is sent -/

/-- The text in which a value is sent. -/
def sentText (v : Json) : String := Json.write { ascii := true } v

theorem parse_sentText {v : Json} (hv : v.Writable) : Json.parse (sentText v) = .ok v :=
  Json.parse_write (by simp [Json.Style.Blank]) hv

/-- Bodies in this many bytes are let through. -/
def Settings.Admits (s : Settings) (v : Json) : Prop :=
  ∀ limit ∈ s.limit, ((sentText v).utf8ByteSize : Int) ≤ limit

/-- The request of a client for a wish; a body goes along with an action only. -/
def Wish.request (wish : Wish) (url : String) (body : Json) : Remote.Request :=
  match wish with
  | .fill => .get url
  | .save | .submit => .post url body

theorem header?_eq_none {header : String}
    (h : ∀ e ∈ r.headers, Request.headerKey e.1 ≠ Request.headerKey header) :
    r.header? header = none := by
  rw [Request.header?, List.filter_eq_nil_iff.mpr (by simpa using h)]

/-- A client sends no header but for the kind of reply it wants. -/
theorem header?_requestOf (request : Remote.Request) {header : String}
    (h : Request.headerKey header ≠ "accept") : (requestOf request).header? header = none := by
  have haccept : Request.headerKey "Accept" = "accept" := by decide +kernel
  refine header?_eq_none fun e he => ?_
  cases request with
  | get url =>
      rw [List.mem_singleton.mp he, haccept]
      exact h.symm
  | post url body => cases he

theorem isChunked_requestOf (request : Remote.Request) : (requestOf request).isChunked = false := by
  rw [Request.isChunked, header?_requestOf request (by decide +kernel)]
  decide +kernel

theorem isUpgrade_requestOf (request : Remote.Request)
    (hscheme : (requestOf request).target.scheme = "http" ∨
      (requestOf request).target.scheme = "https") :
    (requestOf request).isUpgrade = false := by
  rw [Request.isUpgrade, header?_requestOf request (by decide +kernel),
    header?_requestOf request (by decide +kernel)]
  rcases hscheme with h | h <;> rw [h] <;> decide +kernel

/-- Without a header for it, a request names the server by its address. -/
theorem host_eq (h : r.header? "Host" = none) :
    r.host = Request.host
      { target := { scheme := r.target.scheme, server := r.target.server, path := "/" } } := by
  simp only [Request.host, h, header?_eq_none (r := { target := _ }) (by simp), Option.getD_none]

theorem content_requestOf_post (url : String) (body : Json) :
    (requestOf (.post url body)).content = sentText body := by
  rw [Request.content, isChunked_requestOf, if_neg Bool.false_ne_true]
  rfl

theorem length_requestOf_post (url : String) (body : Json) :
    (requestOf (.post url body)).length = (sentText body).utf8ByteSize := by
  rw [Request.length, content_requestOf_post]

theorem length_requestOf_get (url : String) : (requestOf (.get url)).length = 0 := by
  rw [Request.length, Request.content, isChunked_requestOf, if_neg Bool.false_ne_true]
  rfl

theorem isTooLong_requestOf {body : Json} (h : wish ≠ .fill → s.Admits body) (url : String) :
    isTooLong s (requestOf (wish.request url body)) = false := by
  cases hlimit : s.limit with
  | none => simp [isTooLong, hlimit]
  | some limit =>
      cases wish with
      | fill => simp [isTooLong, hlimit, Wish.request, length_requestOf_get]
      | save | submit =>
          have hle := h nofun limit hlimit
          simp only [isTooLong, hlimit, Wish.request, length_requestOf_post, Bool.and_eq_false_iff,
            decide_eq_false_iff_not]
          omega

theorem exceeds_requestOf {body : Json} (h : wish ≠ .fill → s.Admits body) (url : String) :
    exceeds s (requestOf (wish.request url body)) = false := by
  cases hlimit : s.limit with
  | none => simp [exceeds, hlimit]
  | some limit =>
      cases wish with
      | fill => simp [exceeds, hlimit, Wish.request, length_requestOf_get]
      | save | submit =>
          have hle := h nofun limit hlimit
          simp only [exceeds, hlimit, Wish.request, length_requestOf_post, Option.any_some,
            Bool.and_eq_false_iff, decide_eq_false_iff_not]
          omega

theorem isForeign_requestOf (wish : Wish) (url : String) (body : Json) :
    isForeign (requestOf (wish.request url body)) = false := by
  cases wish with
  | fill =>
      have hmethod : ["POST", "PUT", "PATCH"].contains (requestOf (.get url)).method = false := by
        show ["POST", "PUT", "PATCH"].contains (Text.upper "GET") = false
        decide +kernel
      simp only [isForeign, Wish.request, hmethod, Bool.false_and]
  | save | submit =>
      have htype : Text.occurs "json".toList (requestOf (.post url body)).contentType.toList := by
        show Text.occurs "json".toList "application/json".toList
        decide +kernel
      simp only [isForeign, Wish.request, htype, Bool.not_true, Bool.and_false]

theorem method_requestOf (wish : Wish) (url : String) (body : Json) :
    (requestOf (wish.request url body)).method = wish.method := by
  cases wish with
  | fill =>
      show Text.upper "GET" = "GET"
      decide +kernel
  | save | submit =>
      show Text.upper "POST" = "POST"
      decide +kernel

theorem target_requestOf (wish : Wish) (url : String) (body : Json) :
    (requestOf (wish.request url body)).target = targetOf url := by
  cases wish <;> rfl

/-! ### The body as it is read -/

/-- Two characters below 128 other than the zero tell that the text is UTF-8. -/
theorem ofFront_toBytes {a b : Char} (ha : a.toNat < 0x80) (hb : b.toNat < 0x80)
    (hane : a.toNat ≠ 0) (hbne : b.toNat ≠ 0) (cs : List Char) :
    Json.Encoding.ofFront (Text.toBytes (String.ofList (a :: b :: cs))) = .utf8 := by
  have hbytes : Text.toBytes (String.ofList (a :: b :: cs)) =
      a.toNat :: b.toNat :: (cs.flatMap String.utf8EncodeChar).map UInt8.toNat := by
    rw [Text.toBytes_ofList, List.flatMap_cons, List.flatMap_cons, List.map_append,
      List.map_append, Text.utf8EncodeChar_of_lt ha, Text.utf8EncodeChar_of_lt hb]
    rfl
  rw [hbytes]
  unfold Json.Encoding.ofFront
  split <;> simp_all

theorem withoutMark_ofList {a : Char} (h : a ≠ '\uFEFF') (cs : List Char) :
    withoutMark (String.ofList (a :: cs)) = String.ofList (a :: cs) := by
  rw [withoutMark, String.toList_ofList]
  split
  case h_1 heq => exact absurd (List.cons.inj heq).1 h
  case h_2 => rfl

/-- The text of an object with members begins with a brace and a quote. -/
theorem exists_sentText_eq (name : String) (v : Json) (ms : Entries Json) :
    ∃ cs, sentText (.obj ((name, v) :: ms)) = String.ofList ('{' :: '"' :: cs) :=
  ⟨_, by rw [sentText, Json.write, Json.writeAt]; rfl⟩

theorem isJson_requestOf_post (url : String) (body : Json) :
    isJson (requestOf (.post url body)) = true := by
  have htype : (requestOf (.post url body)).contentType = "application/json" := rfl
  rw [isJson, mediaType, htype]
  decide +kernel

theorem bodyText?_requestOf (url name : String) (v : Json) (ms : Entries Json) :
    bodyText? (requestOf (.post url (.obj ((name, v) :: ms)))) =
      some (sentText (.obj ((name, v) :: ms))) := by
  obtain ⟨cs, hcs⟩ := exists_sentText_eq name v ms
  simp only [bodyText?, content_requestOf_post, hcs, withoutMark_ofList (a := '{') (by decide),
    ofFront_toBytes (a := '{') (b := '"') (by decide) (by decide) (by decide) (by decide)]

/-- **The members of a body are read as they were sent.** -/
theorem jsonBody_requestOf {name : String} {v : Json} {ms : Entries Json}
    (hbody : (Json.obj ((name, v) :: ms)).Writable) (url : String) :
    jsonBody (requestOf (.post url (.obj ((name, v) :: ms)))) = (name, v) :: ms := by
  simp only [jsonBody, isJson_requestOf_post, Bool.not_true, Bool.false_eq_true, if_false,
    bodyText?_requestOf, Option.map_some, parse_sentText hbody, Json.members]

/-- What an endpoint is given of a body. -/
def Wish.data (wish : Wish) (r : Request) : Entries Json :=
  match wish with
  | .save => jsonBody r
  | .fill | .submit => []

/-! ### The guards -/

theorem visit_requestOf {body : Json} (h : wish ≠ .fill → s.Admits body) (around : Surroundings)
    (url link : String) :
    visit s around (requestOf (wish.request url body)) (wish.endpoint link) =
      answer s around (requestOf (wish.request url body))
        (wish.data (requestOf (wish.request url body))) (wish.endpoint link) := by
  have hunrefused := exceeds_requestOf h url
  cases wish with
  | fill => rfl
  | save =>
      simp only [visit, Wish.endpoint, Endpoint.readsBody, Endpoint.isManaged, hunrefused,
        Bool.and_false, if_true, Bool.false_eq_true, if_false, Option.elim_none, Wish.data]
  | submit => rfl

/-- A request for a link passes the guards. -/
theorem respond_requestOf (hc : c.Reaches scheme server name) (hlink : IsLink link) {body : Json}
    (h : wish ≠ .fill → s.Admits body) (around : Surroundings) :
    respond s around (requestOf (wish.request (c.url link wish.action) body)) =
      answer s around (requestOf (wish.request (c.url link wish.action) body))
        (wish.data (requestOf (wish.request (c.url link wish.action) body)))
        (wish.endpoint link) := by
  have htarget := (target_requestOf wish (c.url link wish.action) body).trans
    (targetOf_url hc hlink wish)
  have hscheme : (requestOf (wish.request (c.url link wish.action) body)).target.scheme = scheme :=
    congrArg Target.scheme htarget
  have hupgrade : (requestOf (wish.request (c.url link wish.action) body)).isUpgrade = false :=
    isUpgrade_requestOf _ (hscheme.symm ▸ hc.known)
  have hlabelled : Host.isLabelled
      (requestOf (wish.request (c.url link wish.action) body)).host.toList = true := by
    rw [host_eq (header?_requestOf _ (by decide +kernel)), htarget]
    exact hc.labelled
  have hroute := route_linkPath hlink wish
  simp only [respond, isTooLong_requestOf h, isForeign_requestOf, hlabelled, hupgrade,
    method_requestOf, htarget, hroute, visit_requestOf h, Bool.not_true, Bool.false_eq_true,
    if_false]

/-! ### The exchange -/

/-- The response to a request that ended so. -/
def responseTo : Except Failure Response → Response
  | .ok response => response
  | .error failure => ofFailure failure

/-- A request is answered, and what was not committed is forgotten. -/
theorem serve_eq (h : r.sentMethod ≠ "HEAD") (around : Surroundings) (service : Service) :
    ∃ headers, serve s around r service =
      ({ responseTo ((respond s around r).run service).1 with headers },
        { ((respond s around r).run service).2 with
          database := ((respond s around r).run service).2.database.rollback }) := by
  refine ⟨headersOf around r (responseTo ((respond s around r).run service).1), ?_⟩
  rw [serve]
  simp only [if_neg h]
  rfl

/-- **A client's request for a link is answered by the endpoint of the link**, and what that did
not commit is forgotten. -/
theorem send_wish (wish : Wish) (body : Json) (hc : c.Reaches scheme server name)
    (hlink : IsLink link) (h : wish ≠ .fill → s.Admits body) (around : Surroundings)
    {service after : Service} {result : Except Failure Response}
    (hrun : (answer s around (requestOf (wish.request (c.url link wish.action) body))
      (wish.data (requestOf (wish.request (c.url link wish.action) body)))
      (wish.endpoint link)).run service = (result, after)) :
    (loopback s around).send (wish.request (c.url link wish.action) body) service =
      (.ok (replyOf (responseTo result)), { after with database := after.database.rollback }) := by
  have hmethod : (requestOf (wish.request (c.url link wish.action) body)).sentMethod ≠ "HEAD" := by
    cases wish <;> simp [Wish.request, requestOf]
  obtain ⟨headers, hserve⟩ := serve_eq (s := s) hmethod around service
  rw [respond_requestOf hc hlink h, hrun] at hserve
  show (Except.ok (replyOf (serve s around _ service).1), (serve s around _ service).2) = _
  rw [hserve]
  rfl

/-- Who asks for a questionnaire is sent what the service hands out. -/
theorem send_fill (hc : c.Reaches scheme server name) (hlink : IsLink link) (s : Settings)
    (around : Surroundings) (service : Service) :
    (loopback s around).send (.get (c.url link)) service =
      (.ok (replyOf (responseTo ((service.tables.handed (.str link)).map fun v => .json v))),
        { service with database := service.database.rollback }) := by
  have hrun := Attempt.run_return (Service.respondent (.str link)) (fun v => Response.json v)
    service
  rw [Service.run_respondent] at hrun
  exact send_wish .fill .null hc hlink nofun around hrun

/-- The members of a body that saves name the answer, its value and the version. -/
theorem save_saveBody {q : String} (hq : q ≠ "") (link : String) (value version : Json) :
    save link [("question_id", .str q), ("answer_value", value), ("version", version)] =
      do return saved (← Service.save (.str link) (.str q) value version) := by
  have hid : member [("question_id", .str q), ("answer_value", value), ("version", version)]
      "question_id" = .str q := by
    simp [member, Entries.get?_cons]
  have hvalue : member [("question_id", .str q), ("answer_value", value), ("version", version)]
      "answer_value" = value := by
    simp [member, Entries.get?_cons]
  have hversion : Entries.get? [("question_id", .str q), ("answer_value", value),
      ("version", version)] "version" = some version := by
    simp [Entries.get?_cons]
  rw [save, hid, hvalue, hversion]
  simp only [if_neg hq]
  rfl

/-- Who saves an answer is sent what became of the save. -/
theorem send_save (hc : c.Reaches scheme server name) (hlink : IsLink link) {q : String}
    (hq : q ≠ "") {value version : Json}
    (hbody : (Remote.Client.saveBody (.str q) value version).Writable)
    (h : s.Admits (Remote.Client.saveBody (.str q) value version)) (around : Surroundings)
    {service after : Service} {result : Except Failure SaveOutcome}
    (hsave : (Service.save (.str link) (.str q) value version).run service = (result, after)) :
    (loopback s around).send
        (.post (c.url link "save") (Remote.Client.saveBody (.str q) value version)) service =
      (.ok (replyOf (responseTo (result.map saved))),
        { after with database := after.database.rollback }) := by
  have hrun := Attempt.run_return (Service.save (.str link) (.str q) value version) saved service
  rw [hsave, ← save_saveBody hq] at hrun
  have hdata : Wish.save.data (requestOf (Wish.save.request (c.url link Wish.save.action)
      (Remote.Client.saveBody (.str q) value version))) =
      [("question_id", .str q), ("answer_value", value), ("version", version)] :=
    jsonBody_requestOf hbody _
  rw [← hdata] at hrun
  simpa only [Wish.request, Wish.action] using
    send_wish .save _ hc hlink (fun _ => h) around hrun

/-- Who submits a questionnaire is sent what became of it. -/
theorem send_submit (hc : c.Reaches scheme server name) (hlink : IsLink link)
    (h : s.Admits (.obj [])) (around : Surroundings) {service after : Service}
    {result : Except Failure Unit}
    (hsubmit : (Service.store.submit (.str link)).run service = (result, after)) :
    (loopback s around).send (.post (c.url link "submit") (.obj [])) service =
      (.ok (replyOf (responseTo (result.map fun _ => success []))),
        { after with database := after.database.rollback }) := by
  have hrun := Attempt.run_return (Service.submit (.str link)) (fun _ => success []) service
  have hforgotten := Attempt.run_return (Service.submit (.str link)) (fun _ => ()) service
  obtain ⟨rfl, rfl⟩ := Prod.mk.inj (hforgotten.symm.trans hsubmit)
  have hresult : (((Service.submit (.str link)).run service).1.map fun _ => ()).map
      (fun _ => success []) = ((Service.submit (.str link)).run service).1.map
        fun _ => success [] := by
    cases ((Service.submit (.str link)).run service).1 <;> rfl
  rw [hresult]
  simpa only [Wish.request, Wish.action] using
    send_wish .submit (.obj []) hc hlink (fun _ => h) around hrun

/-! ### Replies -/

/-- A value that is replied is read as it was sent. -/
theorem json_replyOf {v : Json} (hv : v.Writable) (status : Nat) :
    (replyOf (.json v status)).json = .ok v := parse_sentText hv

theorem value_replyOf {v : Json} (hv : v.Writable) (status : Nat) :
    (replyOf (.json v status)).value = .ok v := by
  rw [Remote.Reply.value, json_replyOf hv]
  rfl

/-- The words of an error are read as they were sent. -/
theorem complaint_problem (code : Code) {message : String} (h : message ≠ "") :
    (replyOf (problem code message)).complaint = message := by
  have hv : (Json.obj [("error", .str message), ("code", .str code.name)]).Writable := by
    rw [Json.writable_obj]
    exact ⟨by simp, by simp [Json.writable_str]⟩
  have hread : (replyOf (problem code message)).json =
      .ok (.obj [("error", .str message), ("code", .str code.name)]) := parse_sentText hv
  have herror : (Json.obj [("error", .str message), ("code", .str code.name)]).getD "error" =
      .str message := rfl
  rw [Remote.Reply.complaint, hread]
  simp only [herror, Json.truthy, Json.words, decide_eq_true h, if_true]

end Api

end Questionnaire
