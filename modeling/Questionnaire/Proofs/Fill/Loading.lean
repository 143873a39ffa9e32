/-
What a session loads from the service.

The service sends every answer with its version, so that a session which loads knows
the answers and the versions that are stored: `load_holds`.  A version beyond a column
of numbers is told as a double and taken over as the whole number it stands for.
-/
import Questionnaire.Proofs.Service.History
import Questionnaire.Proofs.Fill.Session
import Questionnaire.Service.Command

namespace Questionnaire

namespace Tables

variable {t : Tables} {i : Int}

/-- What is told of each answer of an instance is found under its question. -/
theorem get?_answersOf {α : Type} (t : Tables) (i : Int) (q : String) (f : StoredAnswer → α) :
    Entries.get? ((t.answersOf i).map fun a => (a.questionId, f a)) q =
      (t.answer? i q).map f := by
  unfold answersOf answer?
  induction t.answers with
  | nil => rfl
  | cons a rest ih =>
      by_cases hi : a.instanceId = i
      · rw [List.filter_cons_of_pos (by simpa using hi), List.map_cons, Entries.get?_cons]
        by_cases hq : q = a.questionId
        · rw [if_pos hq, List.find?_cons_of_pos (isAnswerTo_iff.mpr ⟨hi, hq.symm⟩)]
          rfl
        · rw [if_neg hq, ih, List.find?_cons_of_neg fun hkey => hq (isAnswerTo_iff.mp hkey).2.symm]
      · rw [List.filter_cons_of_neg (by simpa using hi), ih,
          List.find?_cons_of_neg fun hkey => hi (isAnswerTo_iff.mp hkey).1]

/-- The values of answers under their questions, as a session takes them over. -/
theorem flatten_records (t : Tables) (i : Int) :
    Answers.flatten (t.records i) =
      (t.answersOf i).map fun a => (a.questionId, Json.ofText? a.value) := by
  rw [Answers.flatten, Entries.mapValues, records, List.map_map]
  rfl

end Tables

/-- The records in a value that has some. -/
theorem FillSession.recordsOf_eq {payload : Json} {records : Entries Json}
    (h : payload.getD "answers" = .obj records) : recordsOf payload = .ok records := by
  rw [recordsOf, h]
  cases records <;> rfl

/-- What is handed out has the records of the instance. -/
theorem Tables.recordsOf_handed {t : Tables} {link : String} {payload : Json}
    (h : t.handed (.str link) = .ok payload) :
    ∃ row, t.instanceAt? link = some row ∧
      FillSession.recordsOf payload = .ok (t.records row.id) := by
  rw [handed, under_str] at h
  cases hrow : t.instanceAt? link with
  | none =>
      rw [hrow] at h
      cases h
  | some row =>
  simp only [hrow] at h
  cases hsource : t.template? row.templateId with
  | none =>
      rw [hsource] at h
      cases h
  | some source =>
  simp only [hsource] at h
  cases hid : Database.checked row.id with
  | error failure =>
      rw [hid] at h
      cases h
  | ok i =>
      rw [hid] at h
      cases h
      exact ⟨row, rfl, FillSession.recordsOf_eq rfl⟩

namespace FillSession

variable {s : FillSession}

/-- The version in the record of an answer. -/
theorem versionOf_record {a : StoredAnswer} (h : a.version.Counted) :
    versionOf (.obj a.record) = .ok a.version.writes := by
  have hmember : (Json.obj a.record).getD "version" = a.version.toJson := rfl
  have htruthy : a.version.toJson.truthy = true := by
    obtain ⟨n, hn, hlow, -⟩ | hn := h.whole_or_beyond
    · rw [hn]
      exact decide_eq_true (by omega)
    · rw [hn]
      decide +kernel
  rw [versionOf, hmember, Json.orElse, if_pos htruthy, h.whole_toJson]

theorem versionsOf_records {answers : List StoredAnswer}
    (h : ∀ a ∈ answers, a.version.Counted) :
    versionsOf (answers.map fun a => (a.questionId, .obj a.record)) =
      .ok (answers.map fun a => (a.questionId, .int a.version.writes)) := by
  induction answers with
  | nil => rfl
  | cons a rest ih =>
      have hrest := ih fun b hb => h b (List.mem_cons_of_mem a hb)
      rw [List.map_cons, versionsOf, versionOf_record (h a List.mem_cons_self), hrest]
      rfl

/-- The answer to a question with its version, as a session holds them. -/
def holds (s : FillSession) (q : String) : Option (Json × Json) := do
  return (← s.answers.get? (.str q), ← s.versions.get? (.str q))

/-- A session has loaded what is stored under a link. -/
def Holds (s : FillSession) (t : Tables) (link : String) : Prop :=
  ∀ q, s.version (.str q) = .int (t.timesAnswered link q) ∧
    s.holds q = (t.answerAt link q).map fun a => (.ofText? a.value, .int a.version.writes)

/-- A session that has taken over the records of an instance has loaded what is stored. -/
theorem holds_loaded {t : Tables} (h : t.WellVersioned) {link : String} {row : Instance}
    (hrow : t.instanceAt? link = some row) (payload : Json) (document : Document)
    {versions : Entries Json} (hversions : versionsOf (t.records row.id) = .ok versions)
    (s : FillSession) : (loaded payload document (t.records row.id) versions s).Holds t link := by
  intro q
  have hcounted : ∀ a ∈ t.answersOf row.id, a.version.Counted :=
    fun a ha => h.counted a (List.mem_of_mem_filter ha)
  obtain rfl : _ = versions := Except.ok.inj ((versionsOf_records hcounted).symm.trans hversions)
  have hat : t.answerAt link q = t.answer? row.id q := by
    rw [Tables.answerAt, hrow]
    rfl
  constructor
  · rw [version, loaded, Fields.get?_ofEntries,
      Tables.get?_answersOf t row.id q fun a => Json.int a.version.writes, Tables.timesAnswered,
      hat]
    cases t.answer? row.id q <;> rfl
  · rw [holds, loaded, Fields.get?_ofEntries, Fields.get?_ofEntries, Tables.flatten_records,
      Tables.get?_answersOf t row.id q fun a => Json.ofText? a.value,
      Tables.get?_answersOf t row.id q fun a => Json.int a.version.writes, hat]
    cases t.answer? row.id q <;> rfl

/-- A load leaves the service alone; if it completes, the session has loaded what is stored, and
if it fails, the versions stay as they were. -/
theorem load_holds {service : Service} (h : service.Ready) (link : String) (s : FillSession) :
    ∃ outcome after,
      (load Service.store (.str link)).run (s, service) = (outcome, (after, service)) ∧
        ((∃ failure, outcome = .error failure ∧ after.versions = s.versions) ∨
          outcome = .ok ⟨⟩ ∧ after.Holds service.tables link) := by
  have hload := run_load Service.store (.str link) s service
  simp only [Service.store, Service.run_respondent] at hload ⊢
  cases hfetch : service.tables.handed (.str link) with
  | error failure =>
      rw [hfetch] at hload
      exact ⟨.error failure, s, hload, Or.inl ⟨failure, rfl, rfl⟩⟩
  | ok payload =>
  rw [hfetch] at hload
  obtain ⟨row, hrow, hrecords⟩ := Tables.recordsOf_handed hfetch
  have hseeds := seeds payload s
  simp only at hload
  generalize (seed payload).run s = reached at hload hseeds
  cases hseeds with
  | noObject | noDocument | noRecords | noVersions =>
      exact ⟨_, _, hload, Or.inl ⟨_, rfl, rfl⟩⟩
  | @completed document records _ _ _ hrecords' hversions =>
      obtain rfl : service.tables.records row.id = records :=
        Except.ok.inj (hrecords.symm.trans hrecords')
      exact ⟨_, _, hload, Or.inr ⟨rfl, holds_loaded h.versions hrow payload document hversions s⟩⟩

end FillSession

end Questionnaire
