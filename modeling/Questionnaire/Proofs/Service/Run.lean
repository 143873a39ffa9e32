/-
Runs of the service.

A run is a list of events: operations with any arguments, one after the other in one session,
and between them the ends of requests, which forget what is pending, and the passing of time.
Not every operation has to be a request of its own.  One that fails may leave changes pending,
and then a later operation commits them, if no request ends before.

What every change of the operations in a run keeps, holds after the run: `Lasting.after`.  What
is pending never concerns instances and answers, `Aligned`: their operations commit at once.
-/
import Questionnaire.Proofs.Service.Keeping

namespace Questionnaire

namespace Service

/-- What happens to the service. -/
inductive Event
  | call (op : Operation)
  /-- A request ends. -/
  | finish
  | later (now : Moment)

/-- The service after an event. -/
def step (s : Service) : Event → Service
  | .call op => (op.run.run s).2
  | .finish => { s with database := s.database.rollback }
  | .later now => { s with now }

/-- The service after a run. -/
def after (s : Service) (events : List Event) : Service := events.foldl step s

/-- A service with empty tables. -/
def blank (now : Moment) (links : Nat → String) (drawn : Nat) (fillBase : Option String) :
    Service := { now, links, drawn, fillBase }

variable {I : Tables → Prop} {s : Service} {event : Event} {events : List Event}

theorem step_createInstance (template admin name email : Json) (s : Service) :
    s.step (.call (.createInstance template admin name email)) =
      ((createInstance template admin name email).run s).2 :=
  Attempt.forget_state (createInstance template admin name email) s

theorem step_write (w : Write) (s : Service) : s.step (.call (.write w)) = (w.run.run s).2 :=
  Attempt.forget_state w.run s

/-! ### What lasts -/

theorem Lasting.step (h : Lasting I s) (hI : ∀ op, event = .call op → Tables.Stable op I) :
    Lasting I (s.step event) := by
  cases event with
  | call op => exact op.keeps (hI op rfl) s h
  | finish => exact h.rollback
  | later now => exact h

/-- **What the operations of a run keep holds after the run.** -/
theorem Lasting.after (h : Lasting I s) (hI : ∀ op, .call op ∈ events → Tables.Stable op I) :
    Lasting I (s.after events) := by
  induction events generalizing s with
  | nil => exact h
  | cons event rest ih =>
      have hfirst : Lasting I (s.step event) :=
        h.step fun op heq => hI op (heq ▸ List.mem_cons_self)
      exact ih hfirst fun op hop => hI op (List.mem_cons_of_mem _ hop)

theorem lasting_blank (hempty : I {}) (now : Moment) (links : Nat → String) (drawn : Nat)
    (fillBase : Option String) : Lasting I (blank now links drawn fillBase) :=
  ⟨hempty, hempty⟩

/-- After a run that ends with the end of a request, the service is ready. -/
theorem ready_after (now : Moment) (links : Nat → String) (drawn : Nat) (fillBase : Option String)
    (events : List Event) : (((blank now links drawn fillBase).after events).step .finish).Ready :=
  ⟨rfl, ((lasting_blank Tables.wellVersioned_empty _ _ _ _).after fun op _ =>
    Tables.stable_wellVersioned op).1⟩

/-! ### What is pending -/

/-- What is pending concerns neither instances nor answers. -/
structure Aligned (s : Service) : Prop where
  instances : s.database.working.instances = s.database.committed.instances
  answers : s.database.working.answers = s.database.committed.answers

theorem stable_rows {op : Operation} (hop : op.isOnInstances = false) (instances : List Instance)
    (answers : List StoredAnswer) :
    Tables.Stable op fun t => t.instances = instances ∧ t.answers = answers := by
  rintro t u ⟨hinstances, hanswers⟩ hstep
  cases hstep with
  | author hadd =>
      rw [Tables.addAdmin_eq_ok hadd]
      exact ⟨hinstances, hanswers⟩
  | template hadd =>
      rw [Tables.addTemplate_eq_ok hadd]
      exact ⟨hinstances, hanswers⟩
  | loggedIn | edited | archived | withoutTemplate => exact ⟨hinstances, hanswers⟩
  | _ => cases hop

theorem Unwritten.aligned {s after : Service} (h : Unwritten s.database after) (hs : s.Aligned) :
    after.Aligned := by
  rcases h with hsame | hback
  · exact ⟨by rw [hsame]; exact hs.instances, by rw [hsame]; exact hs.answers⟩
  · exact ⟨by rw [hback]; rfl, by rw [hback]; rfl⟩

theorem Ends.aligned {op : Operation} {s after : Service} (h : Ends op s after) (hs : s.Aligned) :
    after.Aligned := by
  rcases h with hunwritten | ⟨t, u, -, -, hdone⟩
  · exact hunwritten.aligned hs
  · exact ⟨by rw [hdone], by rw [hdone]⟩

theorem Aligned.step (h : s.Aligned) (event : Event) : (s.step event).Aligned := by
  obtain ⟨hinstances, hanswers⟩ := h
  cases event with
  | call op =>
      by_cases hop : op.isOnInstances = true
      · exact (op.ends hop s).aligned ⟨hinstances, hanswers⟩
      · have hrows := op.keeps (stable_rows (Bool.not_eq_true _ ▸ hop)
          s.database.committed.instances s.database.committed.answers) s
          ⟨⟨rfl, rfl⟩, hinstances, hanswers⟩
        exact ⟨hrows.2.1.trans hrows.1.1.symm, hrows.2.2.trans hrows.1.2.symm⟩
  | finish => exact ⟨rfl, rfl⟩
  | later now => exact ⟨hinstances, hanswers⟩

theorem Aligned.after (h : s.Aligned) (events : List Event) : (s.after events).Aligned := by
  induction events generalizing s with
  | nil => exact h
  | cons event rest ih => exact ih (h.step event)

end Service

end Questionnaire
