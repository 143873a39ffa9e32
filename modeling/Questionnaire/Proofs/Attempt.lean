/-
What an attempt does, step by step.

An attempt is a chain of steps.  The facts here say what the outcome and the state are
after each kind of step, so that a proof about an attempt reads it from the front: what
follows a step starts from the state that the step leaves, and is skipped where the
step failed.
-/
import Questionnaire.Attempt
import Questionnaire.Fill.Store

namespace Questionnaire

theorem eq_ok_of_toOption {ε α : Type} {x : Except ε α} {a : α} (h : x.toOption = some a) :
    x = .ok a := by
  cases x with
  | error failure => cases h
  | ok b => exact congrArg Except.ok (Option.some.inj h)

namespace Attempt

variable {σ τ α β : Type}

/-- How an attempt goes on from what was reached so far. -/
def andThen (reached : Except Failure α × σ) (next : α → Attempt σ β) : Except Failure β × σ :=
  match reached with
  | (.ok a, s) => (next a).run s
  | (.error failure, s) => (.error failure, s)

@[simp] theorem andThen_ok (a : α) (s : σ) (next : α → Attempt σ β) :
    andThen (.ok a, s) next = (next a).run s := rfl

@[simp] theorem andThen_error (failure : Failure) (s : σ) (next : α → Attempt σ β) :
    andThen (.error failure, s) next = (.error failure, s) := rfl

@[simp] theorem run_bind (a : Attempt σ α) (next : α → Attempt σ β) (s : σ) :
    (a >>= next).run s = andThen (a.run s) next := by
  show ExceptT.run (a >>= next) s = _
  rw [ExceptT.run_bind]
  show StateT.bind (ExceptT.run a) _ s = _
  simp only [StateT.bind, andThen, run]
  cases h : ExceptT.run a s with
  | mk r after => cases r <;> rfl

@[simp] theorem run_pure (a : α) (s : σ) : (pure a : Attempt σ α).run s = (.ok a, s) := rfl

@[simp] theorem run_throw (failure : Failure) (s : σ) :
    (throw failure : Attempt σ α).run s = (.error failure, s) := rfl

@[simp] theorem run_refuse (rule : Refusal) (s : σ) :
    (refuse rule : Attempt σ α).run s = (.error (.refused rule), s) := rfl

@[simp] theorem run_get (s : σ) : (get : Attempt σ σ).run s = (.ok s, s) := rfl

@[simp] theorem run_set (now s : σ) : (set now : Attempt σ PUnit).run s = (.ok ⟨⟩, now) := rfl

@[simp] theorem run_modify (f : σ → σ) (s : σ) :
    (modify f : Attempt σ PUnit).run s = (.ok ⟨⟩, f s) := rfl

@[simp] theorem run_lift (r : Except Failure α) (s : σ) :
    (lift r : Attempt σ α).run s = (r, s) := by
  cases r <;> rfl

@[simp] theorem run_fit (r : Except Misfit α) (s : σ) :
    (fit r : Attempt σ α).run s = (r.mapError Failure.misfit, s) := by
  cases r <;> rfl

attribute [simp] run_onFirst run_onSecond

/-- What an attempt gives is changed afterwards. -/
theorem run_return (a : Attempt σ α) (f : α → β) (s : σ) :
    (do return f (← a) : Attempt σ β).run s = ((a.run s).1.map f, (a.run s).2) := by
  rw [run_bind]
  cases a.run s with
  | mk outcome after => cases outcome <;> rfl

/-- Forgetting what an attempt gives changes nothing. -/
theorem forget_state (a : Attempt σ α) (s : σ) :
    ((do let _ ← a : Attempt σ Unit).run s).2 = (a.run s).2 := by
  rw [run_bind]
  cases a.run s with
  | mk outcome after => cases outcome <;> rfl

theorem forget_ok {a : Attempt σ α} {s after : σ}
    (h : (do let _ ← a : Attempt σ Unit).run s = (.ok (), after)) :
    ∃ x, a.run s = (.ok x, after) := by
  rw [run_bind] at h
  cases hrun : a.run s with
  | mk outcome reached =>
      rw [hrun] at h
      cases outcome with
      | ok x => exact ⟨x, congrArg (Except.ok x, ·) (Prod.mk.inj h).2⟩
      | error failure => cases (Prod.mk.inj h).1

/-! ### What an attempt keeps -/

/-- Whatever becomes of the attempt, a property of the state is kept. -/
def Keeps (P : σ → Prop) (a : Attempt σ α) : Prop := ∀ s, P s → P (a.run s).2

variable {P : σ → Prop} {a : Attempt σ α}

theorem Keeps.bind {next : α → Attempt σ β} (h : Keeps P a) (hnext : ∀ x, Keeps P (next x)) :
    Keeps P (a >>= next) := by
  intro s hs
  rw [run_bind]
  have hafter := h s hs
  cases hrun : a.run s with
  | mk outcome after =>
      rw [hrun] at hafter
      cases outcome with
      | ok x => exact hnext x after hafter
      | error failure => exact hafter

theorem keeps_pure (x : α) : Keeps P (pure x : Attempt σ α) := fun _ hs => hs

theorem keeps_modify {f : σ → σ} (h : ∀ s, P s → P (f s)) :
    Keeps P (modify f : Attempt σ PUnit) := fun s hs => h s hs

theorem keeps_set {now : σ} (h : P now) : Keeps P (set now : Attempt σ PUnit) := fun _ _ => h

theorem keeps_throw (failure : Failure) : Keeps P (throw failure : Attempt σ α) := fun _ hs => hs

theorem keeps_lift (r : Except Failure α) : Keeps P (lift r : Attempt σ α) := by
  intro s hs
  rw [run_lift]
  exact hs

/-- What follows has to keep the property for the value that was worked out only. -/
theorem keeps_lift_bind {r : Except Failure α} {next : α → Attempt σ β}
    (h : ∀ x, r = .ok x → Keeps P (next x)) : Keeps P (lift r >>= next) := by
  intro s hs
  rw [run_bind, run_lift]
  cases hr : r with
  | ok x => exact h x hr s hs
  | error failure => exact hs

theorem keeps_fit (r : Except Misfit α) : Keeps P (fit r : Attempt σ α) := by
  intro s hs
  rw [run_fit]
  exact hs

theorem keeps_get : Keeps P (get : Attempt σ σ) := fun _ hs => hs

/-- What follows a look at the state has to keep the property from that state on only. -/
theorem keeps_get_bind {next : σ → Attempt σ β} (h : ∀ s, P s → P ((next s).run s).2) :
    Keeps P (get >>= next) := by
  intro s hs
  rw [run_bind, run_get]
  exact h s hs

/-! ### What an attempt leads to -/

/-- The end of an attempt: a success with a state that suits its value, or a failure with a state
of another kind. -/
inductive LedTo (Q : α → σ → Prop) (R : σ → Prop) : Except Failure α × σ → Prop
  | ok {x : α} {after : σ} (h : Q x after) : LedTo Q R (.ok x, after)
  | error {failure : Failure} {after : σ} (h : R after) : LedTo Q R (.error failure, after)

/-- From states with a property, an attempt that succeeds leads to states that suit its value,
and one that fails leads to states of another kind. -/
def Leads (P : σ → Prop) (a : Attempt σ α) (Q : α → σ → Prop) (R : σ → Prop) : Prop :=
  ∀ s, P s → LedTo Q R (a.run s)

variable {Q : α → σ → Prop} {R : σ → Prop}

theorem Keeps.leads (h : Keeps P a) (hfail : ∀ s, P s → R s) : Leads P a (fun _ => P) R := by
  intro s hs
  have hafter := h s hs
  cases hrun : a.run s with
  | mk outcome after =>
      rw [hrun] at hafter
      cases outcome with
      | ok x => exact .ok hafter
      | error failure => exact .error (hfail after hafter)

theorem Leads.keeps (h : Leads P a (fun _ => P) P) : Keeps P a := by
  intro s hs
  have hafter := h s hs
  cases hrun : a.run s with
  | mk outcome after =>
      rw [hrun] at hafter
      cases hafter with
      | ok hok => exact hok
      | error herror => exact herror

theorem LedTo.andThen {Q' : β → σ → Prop} {reached : Except Failure α × σ}
    {next : α → Attempt σ β} (h : LedTo Q R reached)
    (hnext : ∀ x s, Q x s → LedTo Q' R ((next x).run s)) :
    LedTo Q' R (Attempt.andThen reached next) := by
  cases h with
  | ok hok => exact hnext _ _ hok
  | error herror => exact .error herror

theorem Leads.bind {next : α → Attempt σ β} {Q' : β → σ → Prop} (h : Leads P a Q R)
    (hnext : ∀ x, Leads (Q x) (next x) Q' R) : Leads P (a >>= next) Q' R := by
  intro s hs
  rw [run_bind]
  exact (h s hs).andThen fun x after hafter => hnext x after hafter

theorem Keeps.leads_bind {next : α → Attempt σ β} {Q' : β → σ → Prop} (h : Keeps P a)
    (hfail : ∀ s, P s → R s) (hnext : ∀ x, Leads P (next x) Q' R) : Leads P (a >>= next) Q' R :=
  (h.leads hfail).bind hnext

theorem leads_lift_bind {r : Except Failure α} {next : α → Attempt σ β} {Q' : β → σ → Prop}
    (hfail : ∀ s, P s → R s) (h : ∀ x, r = .ok x → Leads P (next x) Q' R) :
    Leads P (lift r >>= next) Q' R := by
  intro s hs
  rw [run_bind, run_lift]
  cases hr : r with
  | ok x => exact h x hr s hs
  | error failure => exact .error (hfail s hs)

theorem LedTo.mono {Q' : α → σ → Prop} {R' : σ → Prop} {reached : Except Failure α × σ}
    (h : LedTo Q R reached) (hQ : ∀ x s, Q x s → Q' x s) (hR : ∀ s, R s → R' s) :
    LedTo Q' R' reached := by
  cases h with
  | ok hok => exact .ok (hQ _ _ hok)
  | error herror => exact .error (hR _ herror)

theorem LedTo.of_ok {x : α} {after : σ} (h : LedTo Q R (.ok x, after)) : Q x after := by
  cases h with
  | ok hok => exact hok

/-- What suits either end holds of the state that is left. -/
theorem LedTo.state {S : σ → Prop} {reached : Except Failure α × σ} (h : LedTo Q R reached)
    (hQ : ∀ x s, Q x s → S s) (hR : ∀ s, R s → S s) : S reached.2 := by
  cases h with
  | ok hok => exact hQ _ _ hok
  | error herror => exact hR _ herror

theorem Leads.weaken {Q' : α → σ → Prop} (h : Leads P a Q R) (hQ : ∀ x s, Q x s → Q' x s) :
    Leads P a Q' R :=
  fun s hs => (h s hs).mono hQ fun _ => id

theorem Leads.relax {R' : σ → Prop} (h : Leads P a Q R) (hR : ∀ s, R s → R' s) :
    Leads P a Q R' :=
  fun s hs => (h s hs).mono (fun _ _ => id) hR

theorem leads_pure {x : α} (h : ∀ s, P s → Q x s) : Leads P (pure x) Q R := fun s hs => .ok (h s hs)

end Attempt

end Questionnaire
