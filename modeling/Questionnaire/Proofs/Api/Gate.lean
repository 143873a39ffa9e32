/-
What nobody in particular learns and changes.

Whatever lies under the paths of templates and instances is for those who manage questionnaires.
A request of somebody whose key is not on the list is answered before the service is looked at:
the guards and the routes read the request alone, they lead to endpoints that are managed only,
`isManaged_of_route`, and the gate turns the request away without asking who has an account,
`run_visit_of_unidentified`.  So the answer is the same over any two services, and neither is
touched, `unidentified_learns_nothing`.
-/
import Questionnaire.Proofs.Service.Stored
import Questionnaire.Proofs.Text.Plain
import Questionnaire.Api.Server

namespace Questionnaire

namespace Api

open Text (parts)

variable {s : Settings} {g : Gate} {r : Request} {e : Endpoint} {path area method : String}

/-! ### Where questionnaires are managed -/

/-- What is managed, by the part of the path that names it. -/
def managedAreas : List String := ["templates", "instances"]

/-- The path is that of an area, or lies under it. -/
def Under (area path : String) : Prop :=
  path = "/api/v1/" ++ area ∨ ∃ rest, path = "/api/v1/" ++ area ++ "/" ++ rest

/-- The path is one under which questionnaires are managed. -/
def IsManaged (path : String) : Prop := ∃ area ∈ managedAreas, Under area path

/-- The first parts of a path name the area that it lies under. -/
theorem parts_of_under (harea : '/' ∉ area.toList) (h : Under area path) :
    ∃ rest, parts '/' path = "" :: "api" :: "v1" :: area :: rest := by
  have hfront : ∀ cs : List Char, "/api/v1/".toList ++ cs =
      [] ++ '/' :: ("api".toList ++ '/' :: ("v1".toList ++ '/' :: cs)) := fun _ => rfl
  have hslash : "/".toList = ['/'] := rfl
  obtain rfl | ⟨rest, rfl⟩ := h
  · refine ⟨[], ?_⟩
    rw [parts, String.toList_append, hfront, Text.splitAll_append (by decide),
      Text.splitAll_append (by decide), Text.splitAll_append (by decide),
      Text.splitAll_of_notMem harea]
    simp
  · refine ⟨parts '/' rest, ?_⟩
    rw [parts, String.toList_append, String.toList_append, String.toList_append, hslash,
      List.append_assoc, List.append_assoc, List.singleton_append, hfront,
      Text.splitAll_append (by decide), Text.splitAll_append (by decide),
      Text.splitAll_append (by decide), Text.splitAll_append harea]
    simp [parts]

/-- All that can be asked for by the methods is managed. -/
def AllManaged (methods : Methods) : Prop :=
  ∀ m ∈ methods, ∀ e, m.2 = some e → e.isManaged = true

theorem allManaged_templateMethods (id : Option Nat) (rest : List String) :
    AllManaged (templateMethods id rest) := by
  unfold templateMethods
  split <;> simp [AllManaged, Endpoint.isManaged]

theorem allManaged_instanceMethods (id : Option Nat) (rest : List String) :
    AllManaged (instanceMethods id rest) := by
  unfold instanceMethods
  split <;> simp [AllManaged, Endpoint.isManaged]

theorem allManaged_methodsAt (harea : area ∈ managedAreas) (rest : List String) :
    AllManaged (methodsAt ("" :: "api" :: "v1" :: area :: rest)) := by
  have hother : ∀ name ∉ managedAreas, area ≠ name := by
    rintro name hname rfl
    exact hname harea
  generalize hpath : "" :: "api" :: "v1" :: area :: rest = parts
  unfold methodsAt
  split
  case h_1 | h_2 | h_3 | h_5 | h_12 => simp [AllManaged, Endpoint.isManaged]
  case h_4 =>
    split
    case isTrue => exact allManaged_templateMethods _ _
    case isFalse => simp [AllManaged]
  case h_6 =>
    split
    case isTrue => exact allManaged_instanceMethods _ _
    case isFalse => simp [AllManaged]
  case h_7 | h_8 | h_9 | h_10 =>
    simp only [List.cons.injEq, true_and] at hpath
    exact absurd hpath.1 (hother _ (by decide))
  case h_11 => simp at hpath

theorem allManaged_methodsUnder (h : IsManaged path) : AllManaged (methodsUnder path) := by
  obtain ⟨area, harea, hunder⟩ := h
  have hplain : ∀ area ∈ managedAreas, '/' ∉ area.toList := by decide +kernel
  obtain ⟨rest, hparts⟩ := parts_of_under (hplain area harea) hunder
  rw [methodsUnder, hparts]
  exact allManaged_methodsAt harea rest

/-- What is chosen among methods is one of them. -/
theorem isManaged_of_choose {methods : Methods} (h : AllManaged methods)
    (hchoose : choose? methods method = some (.endpoint e)) : e.isManaged = true := by
  unfold choose? at hchoose
  split at hchoose
  case h_1 => cases hchoose
  case h_2 offered endpoint rest hdrop =>
    have hmem : (offered, some endpoint) ∈ methods :=
      (List.dropWhile_sublist _).subset (hdrop ▸ List.mem_cons_self)
    split at hchoose
    case isTrue => cases hchoose
    case isFalse =>
      cases hchoose
      exact h _ hmem e rfl
  case h_3 =>
    split at hchoose
    case isTrue => cases hchoose
    case isFalse => cases hchoose

/-- **Under the paths where questionnaires are managed there is no other endpoint.** -/
theorem isManaged_of_route (h : IsManaged path) (hroute : route method path = .endpoint e) :
    e.isManaged = true := by
  unfold route at hroute
  split at hroute
  case h_1 destination hchoose =>
    exact isManaged_of_choose (allManaged_methodsUnder h) (hroute ▸ hchoose)
  case h_2 =>
    simp only at hroute
    -- What is found under the path without slashes in a row is only pointed to.
    split at hroute
    case isTrue => cases hroute
    case isFalse => split at hroute <;> cases hroute

theorem routeUpgrade_ne_endpoint (method path : String) (e : Endpoint) :
    routeUpgrade method path ≠ .endpoint e := by
  simp only [routeUpgrade]
  split
  case isTrue => exact nofun
  case isFalse => split <;> exact nofun

/-! ### The gate -/

/-- The request shows no key, or one that is not on the list. -/
def Unidentified (g : Gate) (r : Request) : Prop :=
  ∀ key, presentedKey? r = some key → (readKeys g.keys).get? key = none

/-- A closed gate turns away whoever shows no key on the list. -/
theorem identify_of_unidentified (hclosed : g.isClosed = true) (h : Unidentified g r) :
    ∃ response, identify g r = .error response := by
  simp only [identify, hclosed, Bool.not_true, Bool.false_eq_true, if_false]
  cases hkey : presentedKey? r with
  | none => exact ⟨_, rfl⟩
  | some key =>
      simp only [h key hkey]
      split <;> exact ⟨_, rfl⟩

theorem run_visit_of_unidentified (hclosed : s.gate.isClosed = true) (h : Unidentified s.gate r)
    (hmanaged : e.isManaged = true) :
    ∃ response, ∀ around service, (visit s around r e).run service = (.ok response, service) := by
  obtain ⟨response, hidentify⟩ := identify_of_unidentified hclosed h
  refine ⟨response, fun around service => ?_⟩
  simp only [visit, hmanaged, if_true, Attempt.run_bind, authenticate, hidentify, Attempt.run_pure,
    Attempt.andThen_ok]

/-- Before the gate the request alone is looked at, and behind the gate nobody gets. -/
theorem run_respond_of_unidentified (hclosed : s.gate.isClosed = true) (h : Unidentified s.gate r)
    (hmanaged : IsManaged r.target.path) :
    ∃ response, ∀ around service, (respond s around r).run service = (.ok response, service) := by
  unfold respond
  by_cases hlong : isTooLong s r = true
  · exact ⟨_, fun around service => by rw [if_pos hlong]; rfl⟩
  by_cases hforeign : isForeign r = true
  · exact ⟨_, fun around service => by rw [if_neg hlong, if_pos hforeign]; rfl⟩
  by_cases hhost : (!Host.isLabelled r.host.toList) = true
  · exact ⟨_, fun around service => by rw [if_neg hlong, if_neg hforeign, if_pos hhost]; rfl⟩
  simp only [if_neg hlong, if_neg hforeign, if_neg hhost]
  have hleads : ∀ e, (if r.isUpgrade then routeUpgrade else route) r.method r.target.path =
      .endpoint e → e.isManaged = true := by
    intro e hroute
    split at hroute
    case isTrue => exact absurd hroute (routeUpgrade_ne_endpoint _ _ e)
    case isFalse => exact isManaged_of_route hmanaged hroute
  generalize (if r.isUpgrade then routeUpgrade else route) r.method r.target.path =
    destination at hleads
  cases destination with
  | endpoint e => exact run_visit_of_unidentified hclosed h (hleads e rfl)
  | options | moved path | wrongMethod | requestsOnly | nowhere => exact ⟨_, fun _ _ => rfl⟩

/-! ### Serving -/

/-- The headers of a response depend on what is around in one place only, the name of the
request. -/
theorem get?_headersOf (around around' : Surroundings) (r : Request) (response : Response)
    {name : String} (hname : name ≠ "X-Request-ID") :
    (headersOf around r response).get? name = (headersOf around' r response).get? name := by
  have hlast : ∀ (es more : Entries String) (id : String),
      Entries.get? (es.setAll (more ++ [("X-Request-ID", id)])) name =
        (es.setAll more).get? name := by
    intro es more id
    rw [Entries.setAll, List.foldl_append]
    exact Entries.get?_set_of_ne _ _ hname
  simp only [headersOf, hlast]

/-- **Whoever shows no key on the list learns nothing and changes nothing.**  Let the gate be
closed, with any list of keys, and let a request for anything under the paths of templates and
instances show no key or one that is not on the list.  Whatever two services hold, and whatever
else is around, both answer with the same status, the same body and the same headers, but for the
name of the request.  Both are left as they were: what lasts is untouched, and what was pending is
forgotten as after every request. -/
theorem unidentified_learns_nothing (hclosed : s.gate.isClosed = true) (h : Unidentified s.gate r)
    (hmanaged : IsManaged r.target.path) (around around' : Surroundings)
    (service service' : Service) :
    let (answer, after) := serve s around r service
    let (answer', after') := serve s around' r service'
    (answer.status = answer'.status ∧ answer.body = answer'.body ∧
      ∀ name ≠ "X-Request-ID", answer.headers.get? name = answer'.headers.get? name) ∧
    after = { service with database := service.database.rollback } ∧
    after' = { service' with database := service'.database.rollback } := by
  obtain ⟨response, hrun⟩ := run_respond_of_unidentified hclosed h hmanaged
  have hserve : ∀ around service, serve s around r service =
      (let told := { response with headers := headersOf around r response }
       if r.sentMethod = "HEAD" then { told with body := .text "" } else told,
        { service with database := service.database.rollback }) := by
    intro around service
    have hrequest : (Service.request (respond s around r)).run service =
        (.ok response, { service with database := service.database.rollback }) :=
      congrArg (fun reached : Except Failure Response × Service =>
        (reached.1, { reached.2 with database := reached.2.database.rollback }))
          (hrun around service)
    simp only [serve, hrequest]
  rw [hserve, hserve]
  refine ⟨?_, rfl, rfl⟩
  by_cases hhead : r.sentMethod = "HEAD"
  · simp only [if_pos hhead, true_and]
    exact fun name => get?_headersOf around around' r response
  · simp only [if_neg hhead, true_and]
    exact fun name => get?_headersOf around around' r response

/-- Somebody who guesses a key tries to delete a template, at a service that has it and at one that
has nothing. -/
theorem unidentified_learns_nothing_guessing :
    let settings : Settings := { gate := { keys := "k3y:alice" } }
    let request : Request :=
      { sentMethod := "DELETE", target := { path := "/api/v1/templates/1" }
        headers := [("X-API-Key", "guess")] }
    let full := Service.oneOpen
    let empty := Service.oneOpen.withTables {}
    let (answer, after) := serve settings {} request full
    let (answer', after') := serve settings {} request empty
    settings.gate.isClosed = true ∧ Unidentified settings.gate request ∧
      IsManaged request.target.path ∧
      (answer.status = answer'.status ∧ answer.body = answer'.body ∧
        ∀ name ≠ "X-Request-ID", answer.headers.get? name = answer'.headers.get? name) ∧
      after = full ∧ after' = empty ∧ answer.status = 401 := by
  intro settings request full empty
  have hclosed : settings.gate.isClosed = true := by decide +kernel
  have hunknown : Unidentified settings.gate request := by
    have hpresented : presentedKey? request = some "guess" := by decide +kernel
    rintro key hkey
    obtain rfl : "guess" = key := Option.some.inj (hpresented.symm.trans hkey)
    decide +kernel
  have hmanaged : IsManaged request.target.path :=
    ⟨"templates", List.mem_cons_self, Or.inr ⟨"1", rfl⟩⟩
  obtain ⟨hanswer, hafter, hafter'⟩ :=
    unidentified_learns_nothing hclosed hunknown hmanaged {} {} full empty
  exact ⟨hclosed, hunknown, hmanaged, hanswer, hafter, hafter', by decide +kernel⟩

end Api

end Questionnaire
