/-
What the steps of the service do to its state.

Every operation of the service is put together from a few steps.  Each step has one
fact here, which gives its outcome and the state after it; with them an operation is
read from the front to the end, and no proof about an operation opens a step.
-/
import Questionnaire.Proofs.Attempt
import Questionnaire.Service.Answer

namespace Questionnaire

/-- The instance under a link, as a request finds it. -/
def Tables.under (t : Tables) (link : Json) : Except Failure (Option Instance) :=
  (Database.column link).map (·.bind t.instanceAt?)

theorem Tables.under_str (t : Tables) (link : String) :
    t.under (.str link) = .ok (t.instanceAt? link) := rfl

theorem Tables.under_congr {t u : Tables} (h : t.instances = u.instances) (link : Json) :
    t.under link = u.under link := by
  have hat : t.instanceAt? = u.instanceAt? := by
    funext l
    simp only [instanceAt?, h]
  rw [under, under, hat]

/-- What is found under a link is in the table. -/
theorem Tables.mem_of_under {t : Tables} {link : Json} {row : Instance}
    (h : t.under link = .ok (some row)) : row ∈ t.instances := by
  unfold Tables.under at h
  cases hlink : Database.column link with
  | error failure =>
      rw [hlink] at h
      cases h
  | ok link? =>
      rw [hlink] at h
      obtain ⟨l, -, hl⟩ := Option.bind_eq_some_iff.mp (Except.ok.inj h)
      exact List.mem_of_find?_eq_some hl

namespace Service

variable {s : Service}

@[simp] theorem run_read {α : Type} (f : Tables → α) (s : Service) :
    (read f).run s = (.ok (f s.tables), s) := rfl

@[simp] theorem run_commit (s : Service) :
    commit.run s = (.ok ⟨⟩, { s with database := s.database.commit }) := rfl

@[simp] theorem run_rollback (s : Service) :
    rollback.run s = (.ok ⟨⟩, { s with database := s.database.rollback }) := rfl

@[simp] theorem run_change (f : Tables → Tables) (s : Service) :
    (change f).run s = (.ok ⟨⟩, { s with database := s.database.change f }) := rfl

@[simp] theorem run_interleave (f : Tables → Tables) (s : Service) :
    (interleave f).run s = (.ok ⟨⟩, { s with database := s.database.interleave f }) := rfl

@[simp] theorem run_time (s : Service) : time.run s = (.ok s.now, s) := rfl

@[simp] theorem run_instanceUnder (link : Json) (s : Service) :
    (instanceUnder link).run s = (s.tables.under link, s) := by
  unfold instanceUnder Tables.under
  rw [Attempt.run_bind, Attempt.run_lift]
  cases Database.column link with
  | error failure => rfl
  | ok link? => cases link? <;> rfl

/-! ### Nothing pending -/

/-- The session sees what lasts, as it does between two requests. -/
def Settled (s : Service) : Prop := s.database.working = s.database.committed

/-- The service with other tables, which are all committed. -/
def withTables (s : Service) (t : Tables) : Service := { s with database := ⟨t, t⟩ }

@[simp] theorem tables_withTables (s : Service) (t : Tables) : (s.withTables t).tables = t := rfl

theorem settled_withTables (s : Service) (t : Tables) : (s.withTables t).Settled := rfl

/-- Where nothing is pending, a rollback takes nothing back. -/
theorem Settled.rollback (h : s.Settled) : { s with database := s.database.rollback } = s := by
  obtain ⟨⟨committed, working⟩, now, links, drawn, base⟩ := s
  have hpending : working = committed := h
  rw [hpending]
  rfl

end Service

end Questionnaire
