/-
Steps that look, and steps that add a row.

A step that only looks at the tables keeps whatever holds of the state.  Drawing links changes
nothing but the number of links that were drawn.  A row is added and committed in one go, or
nothing is added.

Editing begins with a look at whether the template was sent to anyone: what follows it starts
from tables in which it was not, `leads_unsentTemplate`.
-/
import Questionnaire.Proofs.Database.Naming
import Questionnaire.Proofs.Service.Steps
import Questionnaire.Service.Instance

namespace Questionnaire

namespace Service

open Attempt (Keeps Leads)

variable {P R : Service → Prop}

/-! ### Looking -/

theorem keeps_read {α : Type} (f : Tables → α) : Keeps P (read f) := fun _ hs => hs

theorem keeps_time : Keeps P time := fun _ hs => hs

theorem keeps_findTemplate (id : Json) : Keeps P (findTemplate id) := by
  unfold findTemplate
  refine (Attempt.keeps_lift _).bind fun key => ?_
  split
  case isTrue => exact Attempt.keeps_throw _
  case isFalse =>
    refine (Attempt.keeps_lift _).bind fun key => Attempt.keeps_get.bind fun s => ?_
    split
    case h_1 row _ => exact Attempt.keeps_pure row
    case h_2 => exact Attempt.keeps_throw _

/-- A template that is found is in the table, and the value that it was found by names it. -/
theorem leads_findTemplate (id : Json) (hfail : ∀ s, P s → R s) :
    Leads P (findTemplate id)
      (fun row s => P s ∧ row ∈ s.tables.templates ∧ Database.Names id row.id) R := by
  unfold findTemplate
  refine Attempt.leads_lift_bind hfail fun single hsingle => ?_
  split
  case isTrue => exact fun s hs => .error (hfail s hs)
  case isFalse =>
    refine Attempt.leads_lift_bind hfail fun key hkey s hs => ?_
    rw [Attempt.run_bind, Attempt.run_get, Attempt.andThen_ok]
    cases hfound : key.bind s.tables.template? with
    | none => exact .error (hfail s hs)
    | some row =>
        obtain ⟨i, rfl, hrow⟩ := Option.bind_eq_some_iff.mp hfound
        have hid := List.find?_some hrow
        obtain rfl := of_decide_eq_true hid
        exact .ok ⟨hs, List.mem_of_find?_eq_some hrow, single, hsingle, hkey⟩

theorem keeps_trimmed (v : Json) : Keeps P (trimmed v) := by
  unfold trimmed
  split
  case h_1 s _ => exact Attempt.keeps_pure (Text.trim s)
  case h_2 => exact Attempt.keeps_throw _

theorem keeps_templateName (v : Json) : Keeps P (templateName v) := by
  unfold templateName
  refine (keeps_trimmed v).bind fun name => ?_
  split
  case isTrue => exact Attempt.keeps_throw _
  case isFalse => exact Attempt.keeps_pure name

/-- What is edited is in the table, and was sent to nobody when the session looked. -/
theorem leads_unsentTemplate_named (id : Json) (hfail : ∀ s, P s → R s) :
    Leads P (unsentTemplate id)
      (fun row s => (P s ∧ row ∈ s.tables.templates ∧ Database.Names id row.id) ∧
        s.tables.isSent row.id = false) R := by
  unfold unsentTemplate
  refine (leads_findTemplate id hfail).bind fun row s hs => ?_
  rw [Attempt.run_bind, run_read, Attempt.andThen_ok]
  by_cases hsent : s.tables.isSent row.id = true
  · rw [if_pos hsent]
    exact .error (hfail s hs.1)
  · rw [if_neg hsent]
    exact .ok ⟨hs, Bool.not_eq_true _ ▸ hsent⟩

theorem leads_unsentTemplate (id : Json) (hfail : ∀ s, P s → R s) :
    Leads P (unsentTemplate id) (fun row s => P s ∧ s.tables.isSent row.id = false) R :=
  (leads_unsentTemplate_named id hfail).weaken fun _ _ h => ⟨h.1.1, h.2⟩

theorem leads_openTemplate (id : Json) (hfail : ∀ s, P s → R s) :
    Leads P (openTemplate id) (fun opened s => P s ∧ s.tables.isSent opened.1.id = false) R := by
  unfold openTemplate
  refine (leads_unsentTemplate id hfail).bind fun row => ?_
  refine (Attempt.keeps_lift _).leads_bind (fun s hs => hfail s hs.1) fun document => ?_
  refine (Attempt.keeps_lift _).leads_bind (fun s hs => hfail s hs.1) fun editor => ?_
  exact Attempt.leads_pure fun _ hs => hs

/-- Drawing links changes nothing else. -/
theorem keeps_freeLink (hP : ∀ s n, P s → P { s with drawn := n }) (draws : Nat) :
    Keeps P (freeLink draws) := by
  have hdraw : Keeps P drawLink := fun s hs => hP s _ hs
  induction draws with
  | zero => exact Attempt.keeps_throw _
  | succ draws ih =>
      unfold freeLink
      refine hdraw.bind fun link => (keeps_read _).bind fun taken => ?_
      split
      case isTrue => exact Attempt.keeps_pure link
      case isFalse => exact ih

/-! ### Adding a row -/

variable {α : Type} {d : Database}

/-- The database is as it was, or what was pending is forgotten. -/
def Unwritten (d : Database) (s : Service) : Prop := s.database = d ∨ s.database = d.rollback

theorem leads_addAndCommit (d : Database) (f : Tables → Except Failure (α × Tables)) :
    Leads (fun s => s.database = d) (addAndCommit f)
      (fun row s => ∃ t, f d.working = .ok (row, t) ∧ s.database = ⟨t, t⟩) (Unwritten d) := by
  rintro s rfl
  unfold addAndCommit
  rw [Attempt.run_bind, Attempt.run_get, Attempt.andThen_ok]
  cases hadd : f s.tables with
  | ok added => exact .ok ⟨added.2, hadd, rfl⟩
  | error failure => exact .error (Or.inr rfl)

theorem leads_addForAndCommit (d : Database) (admin : Json)
    (f : Int → Tables → Except Failure (α × Tables)) :
    Leads (fun s => s.database = d) (addForAndCommit admin f)
      (fun row s => ∃ id t, f id d.working = .ok (row, t) ∧ s.database = ⟨t, t⟩) (Unwritten d) := by
  unfold addForAndCommit
  refine (Attempt.keeps_lift _).leads_bind (fun _ hs => Or.inl hs) fun id => ?_
  cases id with
  | some id => exact (leads_addAndCommit d (f id)).weaken fun row s ⟨t, h⟩ => ⟨id, t, h⟩
  | none =>
      rintro s rfl
      exact .error (Or.inr rfl)

/-- A template is sent by adding one instance, which is open and committed; or nothing is added. -/
theorem leads_createInstance_opened (d : Database) (templateId admin name email : Json) :
    Leads (fun s => s.database = d) (createInstance templateId admin name email)
      (fun row s => ∃ new t,
        (new.sentAt.isSome = true ∧ new.isLocked = false ∧ new.submittedAt = none) ∧
        d.working.addInstance new = .ok (row, t) ∧ s.database = ⟨t, t⟩) (Unwritten d) := by
  have hsame : ∀ s : Service, s.database = d → Unwritten d s := fun _ hs => Or.inl hs
  unfold createInstance
  refine (keeps_findTemplate templateId).leads_bind hsame fun row => ?_
  refine (keeps_freeLink (fun _ _ hs => hs) linkDraws).leads_bind hsame fun link => ?_
  refine keeps_time.leads_bind hsame fun now => ?_
  refine (keeps_trimmed name).leads_bind hsame fun name => ?_
  refine (keeps_trimmed email).leads_bind hsame fun email => ?_
  refine (leads_addForAndCommit d admin _).weaken ?_
  rintro row s ⟨createdBy, t, hadd, hs⟩
  exact ⟨_, t, ⟨rfl, rfl, rfl⟩, hadd, hs⟩

theorem leads_createInstance (d : Database) (templateId admin name email : Json) :
    Leads (fun s => s.database = d) (createInstance templateId admin name email)
      (fun row s => ∃ new t, new.sentAt.isSome = true ∧ d.working.addInstance new = .ok (row, t) ∧
        s.database = ⟨t, t⟩) (Unwritten d) :=
  (leads_createInstance_opened d templateId admin name email).weaken
    fun _ _ ⟨new, t, hnew, hadd, hs⟩ => ⟨new, t, hnew.1, hadd, hs⟩

end Service

end Questionnaire
