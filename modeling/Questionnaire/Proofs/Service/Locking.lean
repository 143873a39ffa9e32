/-
When a save writes to a locked instance.

A save looks at the lock once, when it begins.  Whatever it writes in the same
transaction is then written to an open instance, as long as the instance is held open
until the transaction ends.  An insertion that is refused ends the transaction, and
the second try does not look at the lock again.  So an answer is written to a locked
instance in two cases only: somebody locked it before the insertion, or another writer
inserted the answer first and the instance was locked before the second try.
`accepted_while_locked_iff` says that these are all, and `accepted_after_submit` that
the second one happens.
-/
import Questionnaire.Proofs.Service.Stored
import Questionnaire.Service.Instance

namespace Questionnaire

namespace Tables

/-- The instance under a link is locked. -/
def Locked (t : Tables) (link : Json) : Prop :=
  ∃ row, t.under link = .ok (some row) ∧ row.isLocked = true

theorem locked_congr {t u : Tables} (h : t.instances = u.instances) (link : Json) :
    t.Locked link ↔ u.Locked link := by
  unfold Locked
  rw [under_congr h]

end Tables

namespace Service

variable {others : Interference} {s : Service} {link id value version : Json}

/-- What the second try of a save finds. -/
def Interference.atRetry (others : Interference) (s : Service) : Tables :=
  others.beforeRetry (others.beforeInsert s.database.committed)

/-- The instance is locked when the first answer to a question is inserted. -/
def LockedBeforeInsert (others : Interference) (s : Service) (link id value version : Json) :
    Prop :=
  ∃ row q n added, Admitted s.tables link id version row q n ∧
    s.tables.answer? row.id q = none ∧
    (others.beforeInsert s.tables).addAnswer (firstAnswer row.id q value.text? s.now) = .ok added ∧
    (others.beforeInsert s.tables).Locked link

/-- The insertion is refused, and when the save is tried again the instance is locked and
the answer that is there is not newer. -/
def LockedBeforeRetry (others : Interference) (s : Service) (link id value version : Json) :
    Prop :=
  ∃ row q n refusal again after, Admitted s.tables link id version row q n ∧
    s.tables.answer? row.id q = none ∧
    (others.beforeInsert s.tables).addAnswer (firstAnswer row.id q value.text? s.now) =
      .error refusal ∧
    (others.atRetry s).under link = .ok (some again) ∧ again.isLocked = true ∧
    (others.atRetry s).writeAnswer? again.id q value.text? n s.now = some after

/-- A save that is let in finds its instance open. -/
theorem Admitted.not_locked {t : Tables} {row : Instance} {q : String} {n : Int}
    (h : Admitted t link id version row q n) : ¬t.Locked link := by
  rintro ⟨locked, hfound, hlocked⟩
  rw [h.found] at hfound
  obtain rfl := Option.some.inj (Except.ok.inj hfound)
  rw [h.opened] at hlocked
  cases hlocked

/-- A database that holds the instance open between the look and the insertion leaves the
second case only. -/
theorem not_lockedBeforeInsert (hheld : ∀ t, (others.beforeInsert t).under link = t.under link) :
    ¬LockedBeforeInsert others s link id value version := by
  rintro ⟨row, q, n, added, hin, -, -, locked, hfound, hlocked⟩
  rw [hheld] at hfound
  exact hin.not_locked ⟨locked, hfound, hlocked⟩

theorem accepted_report_written {a : Option StoredAnswer} (h : a.isSome = true) :
    Accepted (report written a) := by
  obtain ⟨row, rfl⟩ := Option.isSome_iff_exists.mp h
  exact ⟨_, _, rfl⟩

/-- The second try writes to a locked instance just if it finds one with an answer that is not
newer. -/
theorem retry_while_locked_iff {q : String} {v : Option String} {n : Int} {now : Moment}
    (s : Service) :
    (Accepted ((retry link q v n now).run s).1 ∧
        ((retry link q v n now).run s).2.tables.Locked link) ↔
      ∃ again after, s.tables.under link = .ok (some again) ∧ again.isLocked = true ∧
        s.tables.writeAnswer? again.id q v n now = some after := by
  rw [run_retry]
  cases hfound : s.tables.under link with
  | error failure => simp [not_accepted_error]
  | ok found =>
  cases found with
  | none => simp [noQuestionnaire, not_accepted_rejected]
  | some again =>
  cases hwrite : s.tables.writeAnswer? again.id q v n now with
  | none => simp [not_accepted_newer, hwrite]
  | some after =>
      obtain ⟨hinstances, hthere⟩ := Tables.writeAnswer?_eq_some hwrite
      have hlocked : after.Locked link ↔ again.isLocked = true := by
        rw [Tables.locked_congr hinstances]
        simp [Tables.Locked, hfound]
      simp [accepted_report_written hthere, hlocked, hwrite]

/-- An answer is inserted under a lock if the instance was locked before, and otherwise
only a refused insertion leads to a write under a lock. -/
theorem insert_while_locked_iff {i : Int} {q : String} {v : Option String} {n : Int}
    {now : Moment} (s : Service) :
    (Accepted ((insert others link i q v n now).run s).1 ∧
        ((insert others link i q v n now).run s).2.tables.Locked link) ↔
      (∃ added, (others.beforeInsert s.tables).addAnswer (firstAnswer i q v now) = .ok added ∧
        (others.beforeInsert s.tables).Locked link) ∨
      ∃ refusal again after,
        (others.beforeInsert s.tables).addAnswer (firstAnswer i q v now) = .error refusal ∧
        (others.atRetry s).under link = .ok (some again) ∧ again.isLocked = true ∧
        (others.atRetry s).writeAnswer? again.id q v n now = some after := by
  rw [run_insert]
  cases hadd : (others.beforeInsert s.tables).addAnswer (firstAnswer i q v now) with
  | ok added =>
      obtain ⟨row, after⟩ := added
      have hinstances : after.instances = (others.beforeInsert s.tables).instances := by
        rw [(Tables.addAnswer_eq_ok hadd).2.2]
      have haccepted : Accepted (.ok (.accepted (.int 1) (.str now.iso))) := ⟨_, _, rfl⟩
      simp [haccepted, Tables.locked_congr hinstances]
  | error refusal =>
      rw [retry_while_locked_iff]
      simp [Interference.atRetry, Service.tables, Database.interleave]

/--
**A save writes to a locked instance in two cases only.**  Others lock the instance
between the look at the lock and the insertion, or an insertion is refused and others lock
the instance before the second try, which finds an answer that is not newer.  With
that, whatever others commit, every other save that is accepted finds its instance open.
-/
theorem accepted_while_locked_iff (others : Interference) (s : Service)
    (link id value version : Json) :
    (Accepted ((saveAmong others link id value version).run s).1 ∧
        ((saveAmong others link id value version).run s).2.tables.Locked link) ↔
      LockedBeforeInsert others s link id value version ∨
        LockedBeforeRetry others s link id value version := by
  constructor
  · intro ⟨haccepted, hlocked⟩
    obtain ⟨row, q, n, hin⟩ | hout := admitted_or_turnsBack others link id value version s
    · rw [run_saveAmong_of_admitted others hin, run_place] at haccepted hlocked
      cases hwrite : s.tables.writeAnswer? row.id q value.text? n s.now with
      | some after =>
          -- The write was made in the same transaction as the look at the lock.
          rw [hwrite] at hlocked
          have hinstances := (Tables.writeAnswer?_eq_some hwrite).1
          exact absurd ((Tables.locked_congr hinstances link).mp hlocked) hin.not_locked
      | none =>
          rw [hwrite] at haccepted hlocked
          cases hmissing : s.tables.answer? row.id q with
          | some a =>
              rw [hmissing] at haccepted
              exact absurd haccepted (not_accepted_newer (some a))
          | none =>
              rw [hmissing] at haccepted hlocked
              obtain ⟨added, hadd, hbefore⟩ | ⟨refusal, again, after, hretry⟩ :=
                (insert_while_locked_iff s).mp ⟨haccepted, hlocked⟩
              · exact Or.inl ⟨row, q, n, added, hin, hmissing, hadd, hbefore⟩
              · exact Or.inr ⟨row, q, n, refusal, again, after, hin, hmissing, hretry⟩
    · exact absurd haccepted hout.1
  · rintro (⟨row, q, n, added, hin, hmissing, hinsert⟩ |
      ⟨row, q, n, refusal, again, after, hin, hmissing, hretry⟩)
    · rw [run_saveAmong_of_admitted others hin, run_place,
        Tables.writeAnswer?_of_missing hmissing, hmissing]
      exact (insert_while_locked_iff s).mpr (Or.inl ⟨added, hinsert⟩)
    · rw [run_saveAmong_of_admitted others hin, run_place,
        Tables.writeAnswer?_of_missing hmissing, hmissing]
      exact (insert_while_locked_iff s).mpr (Or.inr ⟨refusal, again, after, hretry⟩)

/-! ### The second case happens -/

/-- What another session makes of the tables by an operation of its own. -/
def byAnother {α : Type} (s : Service) (a : Attempt Service α) (t : Tables) : Tables :=
  (a.run (s.withTables t)).2.database.committed

/-- Another writer answers first, and then the questionnaire is submitted. -/
def answeredThenSubmitted : Interference where
  beforeInsert := byAnother oneOpen (save (.str "k") (.str "q") (.str "first") (.int 0))
  beforeRetry := byAnother oneOpen (submit (.str "k"))

/-- A writer who names version one, where there was no answer yet, overwrites the other's
answer after the questionnaire was submitted. -/
theorem accepted_after_submit :
    Accepted ((saveAmong answeredThenSubmitted (.str "k") (.str "q") (.str "second")
        (.int 1)).run oneOpen).1 ∧
      ((saveAmong answeredThenSubmitted (.str "k") (.str "q") (.str "second")
        (.int 1)).run oneOpen).2.tables.Locked (.str "k") :=
  ⟨⟨_, _, rfl⟩, _, rfl, rfl⟩

end Service

end Questionnaire
