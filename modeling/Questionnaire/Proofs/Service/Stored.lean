/-
What a save leaves behind when nobody interferes.

Between two requests nothing is pending and every version was counted: `Ready`.  A save
that finds a service so either leaves it as it is, or it stores one answer, and then
`Stored` says everything about the new state: the answer has the given value and the
version after the one that was there, and nothing else has changed.
-/
import Questionnaire.Proofs.Service.Saving

namespace Questionnaire

namespace Tables

/-- The tables with an answer under a new id. -/
def withAnswer (t : Tables) (row : StoredAnswer) : Tables :=
  { t with answers := t.answers ++ [{ row with id := nextId (t.answers.map (·.id)) }] }

/-- A first answer to a question of an instance is not refused. -/
theorem addAnswer_of_new {t : Tables} {row : StoredAnswer} {i : Instance} (hi : i ∈ t.instances)
    (howner : row.instanceId = i.id) (hnew : t.answer? row.instanceId row.questionId = none) :
    t.addAnswer row =
      .ok ({ row with id := nextId (t.answers.map (·.id)) }, t.withAnswer row) := by
  have hthere : (t.instance? row.instanceId).isSome = true := by
    rw [instance?, List.find?_isSome]
    exact ⟨i, hi, decide_eq_true howner.symm⟩
  unfold addAnswer
  rw [if_neg]
  · rfl
  · rw [Option.isSome_iff_ne_none] at hthere
    simp [hthere, hnew]

end Tables

namespace Service

variable {s after : Service} {link id value version : Json} {row : Instance} {q : String} {n : Int}

/-- A service between two requests, whose answers were counted from one.  Every service
that requests lead to is so, `ready_after`. -/
structure Ready (s : Service) : Prop where
  settled : s.Settled
  versions : s.tables.WellVersioned

/-- A service with one questionnaire, which is open. -/
def oneOpen : Service where
  database := ⟨rows, rows⟩
  now := ⟨0⟩
  links _ := ""
where
  rows : Tables :=
    { admins := [⟨1, "a", ⟨0⟩, none⟩]
      templates := [⟨1, "t", none, "\x7b\"items\": []\x7d", 1, ⟨0⟩, ⟨0⟩, false⟩]
      instances := [
        { id := 1, templateId := 1, link := "k", targetName := "", targetEmail := "",
          createdBy := 1, createdAt := ⟨0⟩, sentAt := some ⟨0⟩ }] }

theorem ready_oneOpen : oneOpen.Ready :=
  ⟨rfl, List.nodup_nil, by simp [tables, oneOpen, oneOpen.rows]⟩

theorem Ready.withTables {t : Tables} (s : Service) (h : t.WellVersioned) :
    (s.withTables t).Ready :=
  ⟨s.settled_withTables t, h⟩

/-- One answer was stored, with this value and for a writer who knew this version. -/
structure Stored (s : Service) (row : Instance) (q : String) (value : Option String) (n : Int)
    (a : StoredAnswer) (after : Service) : Prop where
  ready : after.Ready
  instances : after.tables.instances = s.tables.instances
  notNewer : ∀ b, s.tables.answer? row.id q = some b → b.version.writes ≤ n
  value_eq : a.value = value
  first : s.tables.answer? row.id q = none → a.version = .whole 1
  next : ∀ b, s.tables.answer? row.id q = some b → a.version = b.version.next
  found : after.tables.answer? row.id q = some a
  others : ∀ j r, (j, r) ≠ (row.id, q) → after.tables.answer? j r = s.tables.answer? j r

/-- A version that was counted on is one that a column can hold: it is between one and what the
writer knew. -/
theorem Stored.fits_before {value : Option String} {a b : StoredAnswer}
    (h : Stored s row q value n a after) (hs : s.tables.WellVersioned)
    (hfits : Database.fits n = true) (hb : s.tables.answer? row.id q = some b) :
    Database.fits b.version.writes = true := by
  have hone := (hs.counted_answer? hb).one_le_writes
  have hle := h.notNewer b hb
  rw [Database.fits_iff] at hfits ⊢
  omega

/-- A first answer is stored with version one. -/
theorem stored_first (link : Json) (h : s.tables.WellVersioned) (hrow : row ∈ s.tables.instances)
    (hnew : s.tables.answer? row.id q = none) (value : Option String) (n : Int) (now : Moment) :
    ∃ a, (insert .none link row.id q value n now).run s =
        (.ok (written a), s.withTables (s.tables.withAnswer (firstAnswer row.id q value now))) ∧
      Stored s row q value n a
        (s.withTables (s.tables.withAnswer (firstAnswer row.id q value now))) := by
  let first := firstAnswer row.id q value now
  let a : StoredAnswer := { first with id := Tables.nextId (s.tables.answers.map (·.id)) }
  have hkey : Tables.answerKey a = (row.id, q) := rfl
  refine ⟨a, ?_, ?_⟩
  · rw [run_insert]
    have hadd : (Interference.none.beforeInsert s.tables).addAnswer first =
        .ok (a, s.tables.withAnswer first) := Tables.addAnswer_of_new hrow rfl hnew
    rw [hadd]
    rfl
  · exact {
      ready := Ready.withTables s (h.append hnew hkey .first)
      instances := rfl
      notNewer := fun b hb => by rw [hnew] at hb; cases hb
      value_eq := rfl
      first := fun _ => rfl
      next := fun b hb => by rw [hnew] at hb; cases hb
      found := (Tables.answer?_append hnew hkey row.id q).trans (if_pos rfl)
      others := fun j r hother => (Tables.answer?_append hnew hkey j r).trans (if_neg hother) }

/-- An answer that is not newer is stored once more. -/
theorem stored_again (h : s.tables.WellVersioned) {b : StoredAnswer}
    (hb : s.tables.answer? row.id q = some b) (hwrites : b.version.writes ≤ n)
    (value : Option String) (now : Moment) :
    Stored s row q value n (Tables.renewed value now b)
      (s.withTables (s.tables.renew row.id q value now)) where
  ready := Ready.withTables s (h.renew value now)
  instances := rfl
  notNewer c hc := by
    rw [hb] at hc
    obtain rfl := Option.some.inj hc
    exact hwrites
  value_eq := rfl
  first hnew := by
    rw [hb] at hnew
    cases hnew
  next c hc := by
    rw [hb] at hc
    obtain rfl := Option.some.inj hc
    rfl
  found := by
    rw [tables_withTables, Tables.answer?_renew, if_pos rfl, hb]
    rfl
  others j r hother := by rw [tables_withTables, Tables.answer?_renew, if_neg hother]

/-- An answer that is there is stored once more, or is newer. -/
theorem write_or_newer (h : s.tables.WellVersioned) {b : StoredAnswer}
    (hb : s.tables.answer? row.id q = some b) (hfits : Database.fits n = true)
    (value : Option String) (now : Moment) :
    (∃ a t, s.tables.writeAnswer? row.id q value n now = some t ∧ t.answer? row.id q = some a ∧
        Stored s row q value n a (s.withTables t)) ∨
      s.tables.writeAnswer? row.id q value n now = none ∧ n < b.version.writes := by
  have hatMost := (h.counted_answer? hb).atMost_iff hfits
  rw [Tables.writeAnswer?_eq h, hb, Option.bind_some]
  by_cases hwrites : b.version.writes ≤ n
  · rw [if_pos (hatMost.mpr hwrites)]
    have hstored := stored_again h hb hwrites value now
    exact Or.inl ⟨_, _, rfl, hstored.found, hstored⟩
  · rw [if_neg (mt hatMost.mp hwrites)]
    exact Or.inr ⟨rfl, Int.not_le.mp hwrites⟩

/-- What is let in is stored, or is found newer and at most takes back what was pending. -/
theorem run_save_of_admitted (value : Json) (h : s.tables.WellVersioned)
    (hin : Admitted s.tables link id version row q n) :
    (∃ a, ((save link id value version).run s).1 = .ok (written a) ∧
        Stored s row q value.text? n a ((save link id value version).run s).2) ∨
      ∃ b, s.tables.answer? row.id q = some b ∧ n < b.version.writes ∧
        (save link id value version).run s =
          (.ok (newer b), { s with database := s.database.rollback }) := by
  have hplace : (save link id value version).run s =
      (place .none link row.id q value.text? n s.now).run s := run_saveAmong_of_admitted .none hin
  rw [hplace, run_place]
  cases hb : s.tables.answer? row.id q with
  | none =>
      rw [Tables.writeAnswer?_of_missing hb]
      obtain ⟨a, hrun, hstored⟩ := stored_first link h (Tables.mem_of_under hin.found) hb
        value.text? n s.now
      refine Or.inl ⟨a, ?_⟩
      dsimp only
      rw [hrun]
      exact ⟨rfl, hstored⟩
  | some b =>
      rcases write_or_newer h hb hin.fits value.text? s.now with
        ⟨a, t, hwrite, hfound, hstored⟩ | ⟨hwrite, hnewer⟩
      · rw [hwrite]
        dsimp only
        rw [hfound]
        exact Or.inl ⟨a, rfl, hstored⟩
      · rw [hwrite]
        exact Or.inr ⟨b, rfl, hnewer, rfl⟩

/-- A save stores an answer, or finds a newer one, or turns back. -/
theorem save_ends (h : s.tables.WellVersioned) (link id value version : Json) :
    (∃ row q n a, Admitted s.tables link id version row q n ∧
        ((save link id value version).run s).1 = .ok (written a) ∧
        Stored s row q value.text? n a ((save link id value version).run s).2) ∨
      (∃ row q n b, Admitted s.tables link id version row q n ∧
        s.tables.answer? row.id q = some b ∧ n < b.version.writes ∧
        (save link id value version).run s =
          (.ok (newer b), { s with database := s.database.rollback })) ∨
      TurnedBack s ((save link id value version).run s) := by
  obtain ⟨row, q, n, hin⟩ | hback := admitted_or_turnsBack .none link id value version s
  · rcases run_save_of_admitted value h hin with ⟨a, houtcome, hstored⟩ | ⟨b, hb, hnewer, hrun⟩
    · exact Or.inl ⟨row, q, n, a, hin, houtcome, hstored⟩
    · exact Or.inr (Or.inl ⟨row, q, n, b, hin, hb, hnewer, hrun⟩)
  · exact Or.inr (Or.inr hback)

/-- A save of a service between two requests stores an answer or leaves everything as it is. -/
theorem save_stores_or_keeps (h : s.Ready) (link id value version : Json) :
    (∃ row q n a, Admitted s.tables link id version row q n ∧
        ((save link id value version).run s).1 = .ok (written a) ∧
        Stored s row q value.text? n a ((save link id value version).run s).2) ∨
      ¬Accepted ((save link id value version).run s).1 ∧
        ((save link id value version).run s).2 = s := by
  rcases save_ends h.versions link id value version with
    hstored | ⟨row, q, n, b, -, -, -, hrun⟩ | ⟨hrefused, hstate, -⟩
  · exact Or.inl hstored
  · rw [hrun, h.settled.rollback]
    exact Or.inr ⟨not_accepted_newer (some b), rfl⟩
  · rw [h.settled.rollback, or_self] at hstate
    exact Or.inr ⟨hrefused, hstate⟩

end Service

end Questionnaire
