/-
How the answer to a question develops.

Seen from a respondent's session there is one answer to a question of the
questionnaire under its link.  Every operation leaves it as it is or counts its version
on: `MovesOn`.  That holds for a save, and for submitting and unlocking, which touch
no answer at all; and it holds along any chain of operations.
-/
import Questionnaire.Proofs.Service.Instances
import Questionnaire.Proofs.Service.Stored
import Questionnaire.Service.Command

namespace Questionnaire

namespace Tables

variable {t u v : Tables} {link q : String}

/-- The answer to a question of the questionnaire under a link. -/
def answerAt (t : Tables) (link q : String) : Option StoredAnswer :=
  (t.instanceAt? link).bind fun row => t.answer? row.id q

/-- How often a question was answered. -/
def timesAnswered (t : Tables) (link q : String) : Int :=
  ((t.answerAt link q).map (·.version.writes)).getD 0

theorem timesAnswered_of_answer {a : StoredAnswer} (h : t.answerAt link q = some a) :
    t.timesAnswered link q = a.version.writes := by
  rw [timesAnswered, h]
  rfl

theorem timesAnswered_of_none (h : t.answerAt link q = none) : t.timesAnswered link q = 0 := by
  rw [timesAnswered, h]
  rfl

theorem WellVersioned.counted_answerAt (h : t.WellVersioned) {a : StoredAnswer}
    (ha : t.answerAt link q = some a) : a.version.Counted := by
  obtain ⟨row, -, hrow⟩ := Option.bind_eq_some_iff.mp ha
  exact h.counted_answer? hrow

theorem WellVersioned.timesAnswered_nonneg (h : t.WellVersioned) (link q : String) :
    0 ≤ t.timesAnswered link q := by
  cases ha : t.answerAt link q with
  | none => exact Int.le_of_eq (timesAnswered_of_none ha).symm
  | some a =>
      rw [timesAnswered_of_answer ha]
      have hone := (h.counted_answerAt ha).one_le_writes
      omega

/-- Every answer under a link is as it was, or was answered more often. -/
def MovesOn (link : String) (t u : Tables) : Prop :=
  ∀ q, u.answerAt link q = t.answerAt link q ∨ t.timesAnswered link q < u.timesAnswered link q

theorem MovesOn.refl (link : String) (t : Tables) : MovesOn link t t := fun _ => Or.inl rfl

theorem MovesOn.le (h : MovesOn link t u) (q : String) :
    t.timesAnswered link q ≤ u.timesAnswered link q := by
  rcases h q with heq | hlt
  · exact Int.le_of_eq (by rw [timesAnswered, timesAnswered, heq])
  · exact Int.le_of_lt hlt

theorem MovesOn.trans (h : MovesOn link t u) (h' : MovesOn link u v) : MovesOn link t v := by
  intro q
  have hle := h.le q
  have hle' := h'.le q
  rcases h q with heq | hlt
  · rcases h' q with heq' | hlt'
    · exact Or.inl (heq'.trans heq)
    · exact Or.inr (by omega)
  · exact Or.inr (by omega)

/-! ### Changing an instance -/

/-- A change of an instance that leaves its link is seen under the link. -/
theorem instanceAt?_modifyInstance {f : Instance → Instance}
    (hlink : ∀ row, (f row).link = row.link) (i : Int) (link : String) :
    (t.modifyInstance i f).instanceAt? link =
      (t.instanceAt? link).map fun row => if row.id = i then f row else row := by
  have hsame : ∀ row : Instance,
      decide ((if row.id = i then f row else row).link = link) = decide (row.link = link) := by
    intro row
    by_cases hi : row.id = i
    · rw [if_pos hi, hlink]
    · rw [if_neg hi]
  simp only [instanceAt?, modifyInstance, List.find?_map, Function.comp_def, hsame]

/-- A change of an instance that leaves its id and its link touches no answer. -/
theorem answerAt_modifyInstance {f : Instance → Instance} (hid : ∀ row, (f row).id = row.id)
    (hlink : ∀ row, (f row).link = row.link) (i : Int) (link q : String) :
    (t.modifyInstance i f).answerAt link q = t.answerAt link q := by
  rw [answerAt, answerAt, instanceAt?_modifyInstance hlink]
  cases t.instanceAt? link with
  | none => rfl
  | some row =>
      have hsame : (if row.id = i then f row else row).id = row.id := by
        split
        · exact hid row
        · rfl
      show (t.modifyInstance i f).answer? _ q = t.answer? row.id q
      rw [hsame]
      rfl

end Tables

namespace Service

variable {s : Service}

/-! ### Submitting and unlocking -/

/-- An operation that changes at most the state of one instance. -/
def ChangesInstance (s after : Service) : Prop :=
  after = s ∨ ∃ i f, (∀ row : Instance, (f row).id = row.id) ∧ (∀ row, (f row).link = row.link) ∧
    after = s.withTables (s.tables.modifyInstance i f)

theorem submit_changesInstance (h : s.Settled) (link : Json) :
    ChangesInstance s ((submit link).run s).2 := by
  rw [run_submit]
  cases s.tables.under link with
  | error failure => exact Or.inl rfl
  | ok found =>
  cases found with
  | none => exact Or.inl h.rollback
  | some row =>
      by_cases hlocked : row.isLocked = true
      · simp only [if_pos hlocked]
        exact Or.inl h.rollback
      · simp only [if_neg hlocked]
        exact Or.inr ⟨row.id, Tables.submittedAs s.now, fun _ => rfl, fun _ => rfl, rfl⟩

/-- The store submits as the service does. -/
theorem store_submit_state (link : Json) (s : Service) :
    ((store.submit link).run s).2 = ((submit link).run s).2 :=
  Attempt.forget_state (submit link) s

theorem unlock_changesInstance (id : Json) (s : Service) :
    ChangesInstance s ((unlock id).run s).2 := by
  rw [run_unlock]
  cases s.tables.found id with
  | error failure => exact Or.inl rfl
  | ok row => exact Or.inr ⟨row.id, Tables.reopened, fun _ => rfl, fun _ => rfl, rfl⟩

theorem ChangesInstance.ready {after : Service} (h : ChangesInstance s after) (hs : s.Ready) :
    after.Ready := by
  rcases h with rfl | ⟨i, f, -, -, rfl⟩
  · exact hs
  · exact Ready.withTables s ⟨hs.versions.once, hs.versions.counted⟩

theorem ChangesInstance.movesOn {after : Service} (h : ChangesInstance s after) (link : String) :
    Tables.MovesOn link s.tables after.tables := by
  intro q
  rcases h with rfl | ⟨i, f, hid, hlink, rfl⟩
  · exact Or.inl rfl
  · exact Or.inl (Tables.answerAt_modifyInstance hid hlink i link q)

/-! ### Saving -/

variable {after : Service} {row : Instance} {q : String} {value : Option String} {n : Int}
  {a : StoredAnswer} {link : String}

/-- The answer that was stored is the one under the link. -/
theorem Stored.answerAt (h : Stored s row q value n a after)
    (hrow : s.tables.instanceAt? link = some row) : after.tables.answerAt link q = some a := by
  rw [Tables.answerAt, Tables.instanceAt?, h.instances]
  show (s.tables.instanceAt? link).bind _ = some a
  rw [hrow]
  exact h.found

theorem Stored.answerAt_of_ne (h : Stored s row q value n a after)
    (hrow : s.tables.instanceAt? link = some row) {r : String} (hr : r ≠ q) :
    after.tables.answerAt link r = s.tables.answerAt link r := by
  rw [Tables.answerAt, Tables.answerAt, Tables.instanceAt?, h.instances]
  show (s.tables.instanceAt? link).bind _ = (s.tables.instanceAt? link).bind _
  rw [hrow]
  exact h.others row.id r fun hkey => hr (Prod.mk.inj hkey).2

/-- Storing an answer counts it once. -/
theorem Stored.writes (h : Stored s row q value n a after) (hs : s.Ready)
    (hrow : s.tables.instanceAt? link = some row) (hfits : Database.fits n = true) :
    a.version.writes = s.tables.timesAnswered link q + 1 := by
  have hat : s.tables.answerAt link q = s.tables.answer? row.id q := by
    rw [Tables.answerAt, hrow]
    rfl
  cases hb : s.tables.answer? row.id q with
  | none =>
      rw [h.first hb, Tables.timesAnswered_of_none (hat.trans hb)]
      rfl
  | some b =>
      have hcounted := hs.versions.counted_answer? hb
      have hfitsb := h.fits_before hs.versions hfits hb
      rw [h.next b hb, Tables.timesAnswered_of_answer (hat.trans hb), hcounted.writes_next hfitsb]

theorem Stored.movesOn (h : Stored s row q value n a after) (hs : s.Ready)
    (hrow : s.tables.instanceAt? link = some row) (hfits : Database.fits n = true) :
    Tables.MovesOn link s.tables after.tables := by
  intro r
  by_cases hr : r = q
  · rw [hr, Tables.timesAnswered_of_answer (h.answerAt hrow), h.writes hs hrow hfits]
    exact Or.inr (by omega)
  · exact Or.inl (h.answerAt_of_ne hrow hr)

end Service

end Questionnaire
