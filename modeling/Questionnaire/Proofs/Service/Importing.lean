/-
Importing the same answers twice.

An import compares each value with what its session has loaded.  What was saved is loaded as text: a
text as itself and null as null, but a number, a truth value, a list or a record as the text that
was made of it, which is another value.  So an import that is repeated finds the texts and the nulls
unchanged, and saves every other answer once more, with the text that is there already:
`import_twice`.

Both imports are runs of one kind.  Answers come in one after the other, and one that is there is
left alone while any other is stored: `TakesIn`.  For the answers that are still to come, the
session goes on having what is stored, for an answer is stored under its own question only:
`Abreast`.
-/
import Questionnaire.Proofs.Fill.Accounting
import Questionnaire.Proofs.Service.WellFormed

namespace Questionnaire

open FillSession (Fate Gives Loads Meets Part importing namesIn)

namespace Json

/-- A value that is saved as it is: a text or null. -/
def isTextual : Json → Bool
  | .null | .str _ => true
  | _ => false

/-- What was read from a column equals nothing but itself. -/
theorem equal_ofText?_iff {text : Option String} {v : Json} :
    equal (.ofText? text) v = true ↔ ofText? text = v := by
  cases text with
  | none => cases v <;> simp [ofText?, equal, numericEqual?, number?]
  | some s => cases v <;> simp [ofText?, equal, numericEqual?, number?]

theorem isTextual_ofText? (text : Option String) : (ofText? text).isTextual = true := by
  cases text <;> rfl

/-- Just the texts and null are what they are after they were saved and read. -/
theorem equal_ofText?_text? (v : Json) : equal (.ofText? v.text?) v = v.isTextual := by
  rw [Bool.eq_iff_iff, equal_ofText?_iff]
  cases v <;> simp [ofText?, text?, words, isTextual]

end Json

namespace Tables

variable {t u : Tables} {link : String} {m : String × Json}

/-- The questionnaire under a link has this very answer; where there is none, null is. -/
def has (t : Tables) (link : String) (m : String × Json) : Bool :=
  (Json.ofText? ((t.answerAt link m.1).bind (·.value))).equal m.2

theorem has_congr (h : u.answerAt link m.1 = t.answerAt link m.1) :
    u.has link m = t.has link m := by
  rw [has, has, h]

theorem isTextual_of_has (h : t.has link m = true) : m.2.isTextual = true := by
  rw [← Json.equal_ofText?_iff.mp h]
  exact Json.isTextual_ofText? _

/-- An answer that was saved is there just if it was saved as it is. -/
theorem has_of_answer {a : StoredAnswer} (h : t.answerAt link m.1 = some a)
    (hvalue : a.value = m.2.text?) : t.has link m = m.2.isTextual := by
  rw [has, h, Option.bind_some, hvalue]
  exact Json.equal_ofText?_text? m.2

/-- A session that has loaded the records of an instance has its answers. -/
theorem sameAs_records (t : Tables) (i : Int) (q : String) (v : Json) :
    Json.sameAs (Entries.get? (Answers.flatten (t.records i)) q) v =
      (Json.ofText? ((t.answer? i q).bind (·.value))).equal v := by
  rw [flatten_records, get?_answersOf t i q fun a => Json.ofText? a.value]
  cases t.answer? i q <;> rfl

/-- There are versions left for the answers that two imports save. -/
def HasRoom (t : Tables) (link : String) (answers : Entries Json) : Prop :=
  ∀ m ∈ answers, (t.has link m = false → Database.fits (t.timesAnswered link m.1) = true) ∧
    (m.2.isTextual = false → Database.fits (t.timesAnswered link m.1 + 1) = true)

end Tables

/-- The answers that were sent to be saved, in their order. -/
def Asked.saves (log : List Asked) : List (Json × Json) :=
  log.reverse.filterMap fun
    | .saved id value _ _ => some (id, value)
    | _ => none

theorem Asked.saves_cons (id value version : Json) (answer : Except Failure SaveOutcome)
    (log : List Asked) :
    saves (.saved id value version answer :: log) = saves log ++ [(id, value)] := by
  simp [saves]

namespace Service

open Asked (saves)

variable {s after last : Service} {link id : String} {value : Json} {row : Instance}
  {answers : Entries Json} {fates : Entries Fate} {session : FillSession} {m : String × Json}

/-- An instance that is open under a link, between two requests. -/
structure Fillable (link : String) (row : Instance) (s : Service) : Prop where
  ready : s.Ready
  found : s.tables.instanceAt? link = some row
  opened : row.isLocked = false

theorem Fillable.answerAt_eq (h : Fillable link row s) (q : String) :
    s.tables.answerAt link q = s.tables.answer? row.id q := by
  rw [Tables.answerAt, h.found]
  rfl

/-- A save that names a version which a column can hold is let in. -/
theorem Fillable.admitted (h : Fillable link row s) (hid : id ≠ "") {n : Int}
    (hfits : Database.fits n = true) :
    Admitted s.tables (.str link) (.str id) (.int n) row id n :=
  ⟨decide_eq_true hid, rfl, by rw [Tables.under_str, h.found], h.opened, rfl, hfits⟩

namespace Stored

variable {q : String} {text : Option String} {n : Int} {a : StoredAnswer}

theorem fillable (h : Stored s row q text n a after) (hs : Fillable link row s) :
    Fillable link row after := by
  refine ⟨h.ready, ?_, hs.opened⟩
  rw [Tables.instanceAt?, h.instances]
  exact hs.found

/-- An answer that is stored says nothing of the other questions. -/
theorem has_eq (h : Stored s row q text n a after) (hs : Fillable link row s) (hm : m.1 ≠ q) :
    after.tables.has link m = s.tables.has link m :=
  Tables.has_congr (h.answerAt_of_ne hs.found hm)

/-- The answers that come after the one that is stored are there as before. -/
theorem has_rest (h : Stored s row id text n a after) (hs : Fillable link row s)
    (hdistinct : (Entries.names ((id, value) :: answers)).Nodup) (hm : m ∈ answers) :
    after.tables.has link m = s.tables.has link m :=
  h.has_eq hs (Entries.ne_of_mem hdistinct hm)

theorem timesAnswered_eq (h : Stored s row q text n a after) (hs : Fillable link row s)
    {r : String} (hr : r ≠ q) :
    after.tables.timesAnswered link r = s.tables.timesAnswered link r := by
  rw [Tables.timesAnswered, Tables.timesAnswered, h.answerAt_of_ne hs.found hr]

end Stored

/-! ### What becomes of the tables -/

/-- Answers come in one after the other: one that is there is left alone, any other is stored. -/
inductive TakesIn (link : String) (row : Instance) :
    Service → Entries Json → Entries Fate → Service → Prop
  | nil (s : Service) : TakesIn link row s [] [] s
  | kept {s last : Service} {id : String} {value : Json} {answers : Entries Json}
      {fates : Entries Fate} (h : s.tables.has link (id, value) = true)
      (hrest : TakesIn link row s answers fates last) :
      TakesIn link row s ((id, value) :: answers) ((id, .unchanged) :: fates) last
  | saved {s after last : Service} {id : String} {value : Json} {answers : Entries Json}
      {fates : Entries Fate} {a : StoredAnswer} (h : s.tables.has link (id, value) = false)
      (hfits : Database.fits (s.tables.timesAnswered link id) = true)
      (hstored : Stored s row id value.text? (s.tables.timesAnswered link id) a after)
      (hrest : TakesIn link row after answers fates last) :
      TakesIn link row s ((id, value) :: answers) ((id, .asked (written a)) :: fates) last

namespace TakesIn

theorem fillable (h : TakesIn link row s answers fates last) (hs : Fillable link row s) :
    Fillable link row last := by
  induction h with
  | nil s => exact hs
  | kept h hrest ih => exact ih hs
  | saved h hfits hstored hrest ih => exact ih (hstored.fillable hs)

/-- Where all answers are there nothing changes. -/
theorem last_eq (h : TakesIn link row s answers fates last)
    (hall : ∀ m ∈ answers, s.tables.has link m = true) : last = s := by
  induction h with
  | nil s => rfl
  | kept h hrest ih => exact ih fun m hm => hall m (List.mem_cons_of_mem _ hm)
  | saved h hfits hstored hrest ih =>
      rw [hall _ List.mem_cons_self] at h
      cases h

/-- **An answer that is there is found unchanged, and any other is accepted.** -/
theorem namesIn_eq (h : TakesIn link row s answers fates last) (hs : Fillable link row s)
    (hdistinct : answers.names.Nodup) (part : Part) :
    namesIn part fates = Entries.names (answers.filter fun m =>
      (if s.tables.has link m then Part.unchanged else .accepted) = part) := by
  induction h with
  | nil s => rfl
  | kept h hrest ih =>
      rw [FillSession.namesIn_cons, ih hs hdistinct.of_cons, List.filter_cons, h, if_pos rfl]
      by_cases hpart : Part.unchanged = part
      · simp [hpart, Fate.part, Entries.names]
      · simp [hpart, Fate.part]
  | @saved s after last id value answers fates a h hfits hstored hrest ih =>
      rw [FillSession.namesIn_cons, ih (hstored.fillable hs) hdistinct.of_cons,
        List.filter_congr fun m hm => by rw [hstored.has_rest hs hdistinct hm], List.filter_cons, h,
        if_neg Bool.false_ne_true]
      by_cases hpart : Part.accepted = part
      · simp [hpart, Fate.part, written, Entries.names]
      · simp [hpart, Fate.part, written]

/-- The report of an import without conflicts or errors. -/
theorem parts (h : TakesIn link row s answers fates last) (hs : Fillable link row s)
    (hdistinct : answers.names.Nodup) :
    namesIn .unchanged fates = Entries.names (answers.filter (s.tables.has link)) ∧
      namesIn .accepted fates = Entries.names (answers.filter fun m => !s.tables.has link m) ∧
      namesIn .conflicts fates = [] ∧ namesIn .errors fates = [] := by
  simp only [h.namesIn_eq hs hdistinct]
  refine ⟨?_, ?_, ?_, ?_⟩
  · exact congrArg _ (List.filter_congr fun m _ => by cases s.tables.has link m <;> rfl)
  · exact congrArg _ (List.filter_congr fun m _ => by cases s.tables.has link m <;> rfl)
  · exact congrArg _ (List.filter_eq_nil_iff.mpr fun m _ => by cases s.tables.has link m <;> simp)
  · exact congrArg _ (List.filter_eq_nil_iff.mpr fun m _ => by cases s.tables.has link m <;> simp)

/-- **Only what is not there is stored.** -/
theorem answer?_eq (h : TakesIn link row s answers fates last) (hs : Fillable link row s)
    (hdistinct : answers.names.Nodup) {j : Int} {r : String}
    (hother : ∀ m ∈ answers, s.tables.has link m = false → (j, r) ≠ (row.id, m.1)) :
    last.tables.answer? j r = s.tables.answer? j r := by
  induction h with
  | nil s => rfl
  | kept h hrest ih =>
      exact ih hs hdistinct.of_cons fun m hm => hother m (List.mem_cons_of_mem _ hm)
  | @saved s after last id value answers fates a h hfits hstored hrest ih =>
      rw [ih (hstored.fillable hs) hdistinct.of_cons, hstored.others j r]
      · exact hother _ List.mem_cons_self h
      · intro m hm hnot
        rw [hstored.has_rest hs hdistinct hm] at hnot
        exact hother m (List.mem_cons_of_mem _ hm) hnot

theorem answerAt_eq (h : TakesIn link row s answers fates last) (hs : Fillable link row s)
    (hdistinct : answers.names.Nodup) {q : String}
    (hother : ∀ m ∈ answers, s.tables.has link m = false → m.1 ≠ q) :
    last.tables.answerAt link q = s.tables.answerAt link q := by
  rw [(h.fillable hs).answerAt_eq, hs.answerAt_eq]
  refine h.answer?_eq hs hdistinct fun m hm hnot heq => ?_
  exact hother m hm hnot (Prod.mk.inj heq).2.symm

/-- **What is not there is stored as its text, and counted once.** -/
theorem exists_stored (h : TakesIn link row s answers fates last) (hs : Fillable link row s)
    (hdistinct : answers.names.Nodup) (hm : m ∈ answers) (hnot : s.tables.has link m = false) :
    ∃ a, last.tables.answerAt link m.1 = some a ∧ a.value = m.2.text? ∧
      a.version.writes = s.tables.timesAnswered link m.1 + 1 := by
  induction h with
  | nil s => cases hm
  | kept h hrest ih =>
      rcases List.mem_cons.mp hm with rfl | hm
      · rw [h] at hnot
        cases hnot
      · exact ih hs hdistinct.of_cons hm hnot
  | @saved s after last id value answers fates a h hfits hstored hrest ih =>
      have hafter := hstored.fillable hs
      rcases List.mem_cons.mp hm with rfl | hm
      · refine ⟨a, ?_, hstored.value_eq, hstored.writes hs.ready hs.found hfits⟩
        rw [hrest.answerAt_eq hafter hdistinct.of_cons fun m hm _ => Entries.ne_of_mem hdistinct hm]
        exact hstored.answerAt hs.found
      · rw [← hstored.has_rest hs hdistinct hm] at hnot
        rw [← hstored.timesAnswered_eq hs (Entries.ne_of_mem hdistinct hm)]
        exact ih hafter hdistinct.of_cons hm hnot

end TakesIn

/-! ### What the session has -/

/-- The session has what is stored for the answers that are to come, and can save them. -/
structure Abreast (link : String) (answers : Entries Json) (session : FillSession) (s : Service) :
    Prop where
  awaits : session.Awaits answers
  opened : session.isLocked = false
  agrees : ∀ id ∈ answers.names, ∀ v, session.hasAnswer id v = s.tables.has link (id, v)
  versions : ∀ id ∈ answers.names,
    session.version (.str id) = .int (s.tables.timesAnswered link id)

/-- A new session that takes over what it fetched has loaded what is stored. -/
theorem Ready.holds (h : s.Ready) {payload : Json}
    (hfetch : (store.fetch (.str link)).run s = (.ok payload, s))
    (hseed : (FillSession.seed payload).run {} = (.ok (), session)) :
    session.Holds s.tables link := by
  have hrun := FillSession.run_load store (.str link) {} s
  rw [hfetch] at hrun
  simp only [hseed] at hrun
  obtain ⟨outcome, after, hends, ⟨failure, rfl, -⟩ | ⟨rfl, hholds⟩⟩ :=
    FillSession.load_holds h link {}
  · cases hrun.symm.trans hends
  · cases hrun.symm.trans hends
    exact hholds

/-- The questionnaire of well-formed tables is loaded as it is stored. -/
theorem Fillable.loads (h : Fillable link row s) (hformed : s.tables.WellFormed)
    (hfits : Database.fits row.id = true) :
    ∃ payload session, (store.fetch (.str link)).run s = (.ok payload, s) ∧ Loads payload session ∧
      ∀ answers : Entries Json, answers.names.Nodup → (∀ id ∈ answers.names, id ≠ "") →
        Abreast link answers session s := by
  have hmem : row ∈ s.tables.instances := List.mem_of_find?_eq_some h.found
  obtain ⟨source, d, hsource, hload⟩ := hformed.source_of_mem hmem
  have hfetch : (store.fetch (.str link)).run s = (.ok (s.tables.handout row source), s) := by
    simp only [store, run_respondent, Tables.handed, Tables.under_str, h.found, hsource,
      Database.checked_eq_ok.mpr ⟨hfits, rfl⟩]
    rfl
  have hseed := FillSession.seed_handout h.ready.versions row hload {}
  have hloads := FillSession.loads_of_seed hseed
  refine ⟨_, _, hfetch, hloads, fun answers hdistinct hnamed => ?_⟩
  have hrecords : FillSession.recordsOf (s.tables.handout row source) =
      .ok (s.tables.records row.id) := FillSession.recordsOf_eq rfl
  constructor
  case awaits => exact hloads.awaits hdistinct hnamed
  case opened => exact h.opened
  case agrees =>
    intro id _ v
    rw [Bool.eq_iff_iff, hloads.hasAnswer, Tables.has, h.answerAt_eq, ← Tables.sameAs_records]
    constructor
    · rintro ⟨records, hsome, hsame⟩
      obtain rfl := Except.ok.inj (hrecords.symm.trans hsome)
      exact hsame
    · exact fun hsame => ⟨_, hrecords, hsame⟩
  case versions => exact fun id _ => (h.ready.holds hfetch hseed id).1

/-! ### An import -/

theorem Abreast.tail (h : Abreast link ((id, value) :: answers) session s) :
    Abreast link answers session s where
  awaits := h.awaits.tail
  opened := h.opened
  agrees other hother := h.agrees other (List.mem_cons_of_mem _ hother)
  versions other hother := h.versions other (List.mem_cons_of_mem _ hother)

/-- Once an answer is stored and its version known, the session is abreast of the tables again. -/
theorem Abreast.stored (h : Abreast link ((id, value) :: answers) session s)
    (hs : Fillable link row s) {n : Int} {a : StoredAnswer}
    (hstored : Stored s row id value.text? n a after) (p : Presentation) :
    Abreast link answers ((session.applyAnswer p (.str id) value).record (.str id) (written a))
      after := by
  have happart := FillSession.apart_record p session id value (written a)
  constructor
  case awaits => exact happart.awaits h.awaits
  case opened => exact h.opened
  case agrees =>
    intro other hother v
    have hne := h.awaits.ne_of_mem hother
    rw [hstored.has_eq hs hne, FillSession.hasAnswer, happart.answers other hne]
    exact h.agrees other (List.mem_cons_of_mem _ hother) v
  case versions =>
    intro other hother
    have hne := h.awaits.ne_of_mem hother
    rw [hstored.timesAnswered_eq hs hne, FillSession.version_record, written]
    exact (if_neg hne).trans (h.versions other (List.mem_cons_of_mem _ hother))

/-- An answer that is not there is saved, and leaves the session abreast of what is stored. -/
theorem Abreast.meets (h : Abreast link ((id, value) :: answers) session s)
    (hs : Fillable link row s) (hnot : s.tables.has link (id, value) = false)
    (hfits : Database.fits (s.tables.timesAnswered link id) = true) (log : List Asked) :
    ∃ a session' after log', Stored s row id value.text? (s.tables.timesAnswered link id) a after ∧
      Meets store.noting (.str link) session (s, log) id value (.asked (written a))
        (session', (after, log')) ∧
      saves log' = saves log ++ [(.str id, value)] ∧ Abreast link answers session' after := by
  have hid : id ≠ "" := h.awaits.named id List.mem_cons_self
  obtain ⟨p, hasks⟩ := h.awaits.asks h.opened
  obtain ⟨a, houtcome, hstored⟩ | ⟨b, hb, hnewer, -⟩ :=
    run_save_of_admitted value hs.ready.versions (hs.admitted hid hfits)
  case inr =>
    -- The session knows the version that is stored, so it cannot be newer.
    rw [Tables.timesAnswered_of_answer ((hs.answerAt_eq id).trans hb)] at hnewer
    omega
  case inl =>
    have hversion := h.versions id List.mem_cons_self
    refine ⟨a, _, _, _, hstored, ?_,
      Asked.saves_cons (.str id) value (session.version (.str id)) (.ok (written a)) log,
      h.stored hs hstored p⟩
    refine .asked ((h.agrees id List.mem_cons_self value).trans hnot) hasks ?_
    rw [← houtcome, hversion]
    rfl

/-- **The answers of a session that is abreast are taken in, and only those are saved that are not
there.** -/
theorem Abreast.gives (h : Abreast link answers session s) (hs : Fillable link row s)
    (hroom : ∀ m ∈ answers, s.tables.has link m = false →
      Database.fits (s.tables.timesAnswered link m.1) = true) (log : List Asked) :
    ∃ fates last, Gives store.noting (.str link) (session, (s, log)) answers fates last ∧
      TakesIn link row s answers fates last.2.1 ∧
      saves last.2.2 = saves log ++
        (answers.filter fun m => !s.tables.has link m).map fun m => (.str m.1, m.2) := by
  induction answers generalizing session s log with
  | nil => exact ⟨[], _, .nil _, .nil s, (List.append_nil _).symm⟩
  | cons answer answers ih =>
      obtain ⟨id, value⟩ := answer
      have hdistinct := h.awaits.distinct
      cases hhas : s.tables.has link (id, value) with
      | true =>
          obtain ⟨fates, last, hgives, htakes, hsaves⟩ := ih h.tail hs
            (fun m hm => hroom m (List.mem_cons_of_mem _ hm)) log
          have hunchanged := (h.agrees id List.mem_cons_self value).trans hhas
          refine ⟨_, last, .cons (.unchanged hunchanged) hgives, .kept hhas htakes, ?_⟩
          rw [hsaves, List.filter_cons, hhas]
          rfl
      | false =>
          have hfits := hroom _ List.mem_cons_self hhas
          obtain ⟨a, session', after, log', hstored, hmeets, hsaved, habreast⟩ :=
            h.meets hs hhas hfits log
          obtain ⟨fates, last, hgives, htakes, hsaves⟩ := ih habreast (hstored.fillable hs)
            (fun m hm hnot => by
              rw [hstored.timesAnswered_eq hs (Entries.ne_of_mem hdistinct hm)]
              rw [hstored.has_rest hs hdistinct hm] at hnot
              exact hroom m (List.mem_cons_of_mem _ hm) hnot) log'
          refine ⟨_, last, .cons hmeets hgives, .saved hhas hfits hstored htakes, ?_⟩
          rw [hsaves, hsaved, List.filter_cons, hhas,
            List.filter_congr fun m hm => by rw [hstored.has_rest hs hdistinct hm]]
          simp

/-- What an import does that nobody interferes with, where some of the answers are there. -/
structure Imported (link : String) (row : Instance) (answers : Entries Json)
    (there : String × Json → Bool) (s : Service) (report : ImportReport) (last : Service) :
    Prop where
  unchanged : report.unchanged = Entries.names (answers.filter there)
  accepted : report.accepted = Entries.names (answers.filter fun m => !there m)
  conflicts : report.conflicts = []
  errors : report.errors = []
  saved : saves (importing store (.str link) answers s) =
    (answers.filter fun m => !there m).map fun m => (.str m.1, m.2)
  /-- What is saved is stored as its text, and counted once. -/
  stored : ∀ m ∈ answers, there m = false → ∃ a, last.tables.answerAt link m.1 = some a ∧
    a.value = m.2.text? ∧ a.version.writes = s.tables.timesAnswered link m.1 + 1
  /-- Every other answer stays with its value, its version and its moment. -/
  others : ∀ i q, (∀ m ∈ answers, there m = false → (i, q) ≠ (row.id, m.1)) →
    last.tables.answer? i q = s.tables.answer? i q
  /-- Where all answers are there nothing at all changes. -/
  idle : (∀ m ∈ answers, there m = true) → last = s

theorem Imported.congr {there there' : String × Json → Bool} {report : ImportReport}
    (h : Imported link row answers there s report last)
    (hsame : ∀ m ∈ answers, there m = there' m) :
    Imported link row answers there' s report last := by
  have hfilter : answers.filter there = answers.filter there' := List.filter_congr hsame
  have hfilter' : (answers.filter fun m => !there m) = answers.filter fun m => !there' m :=
    List.filter_congr fun m hm => by rw [hsame m hm]
  constructor
  case unchanged => rw [h.unchanged, hfilter]
  case accepted => rw [h.accepted, hfilter']
  case conflicts => exact h.conflicts
  case errors => exact h.errors
  case saved => rw [h.saved, hfilter']
  case stored => exact fun m hm hnot => h.stored m hm ((hsame m hm).trans hnot)
  case others =>
    exact fun i q hother => h.others i q fun m hm hnot => hother m hm ((hsame m hm) ▸ hnot)
  case idle => exact fun hall => h.idle fun m hm => (hsame m hm).trans (hall m hm)

/-- Where all answers are there, they are reported so and nothing is done. -/
theorem Imported.nothing {there : String × Json → Bool} {report : ImportReport}
    (h : Imported link row answers there s report last) (hall : ∀ m ∈ answers, there m = true) :
    report.accepted = [] ∧ report.unchanged = answers.names ∧
      saves (importing store (.str link) answers s) = [] ∧ last = s := by
  have hthere : answers.filter there = answers := List.filter_eq_self.mpr hall
  have hothers : (answers.filter fun m => !there m) = [] := by
    rw [List.filter_eq_nil_iff]
    intro m hm
    rw [hall m hm]
    exact Bool.false_ne_true
  refine ⟨?_, ?_, ?_, h.idle hall⟩
  · rw [h.accepted, hothers]
    rfl
  · rw [h.unchanged, hthere]
  · rw [h.saved, hothers]
    rfl

/-- **An import into an open questionnaire completes, and saves just the answers that are not
there.** -/
theorem Fillable.imports (hs : Fillable link row s) (hformed : s.tables.WellFormed)
    (hfits : Database.fits row.id = true) (hdistinct : answers.names.Nodup)
    (hnamed : ∀ id ∈ answers.names, id ≠ "")
    (hroom : ∀ m ∈ answers, s.tables.has link m = false →
      Database.fits (s.tables.timesAnswered link m.1) = true) :
    ∃ report last, (importAnswers store (.str link) (.obj answers) false).run s =
        (.ok report, last) ∧ Fillable link row last ∧
      Imported link row answers (s.tables.has link) s report last := by
  obtain ⟨payload, session, hfetch, hloads, habreast⟩ := hs.loads hformed hfits
  have hsession := habreast answers hdistinct hnamed
  obtain ⟨fates, ⟨last, after, log⟩, hgives, htakes, hsaves⟩ :=
    hsession.gives hs hroom [.fetched (.ok payload)]
  obtain ⟨report, hrun, haccepted, hunchanged, hconflicts, herrors⟩ :=
    hgives.unheard.run_import hfetch hloads.seeded hsession.awaits hloads.conflicts hloads.errors
  obtain ⟨hthere, hothers, hnone, hnone'⟩ := htakes.parts hs hdistinct
  refine ⟨report, after, hrun, htakes.fillable hs, ?_⟩
  constructor
  case unchanged => rw [hunchanged, hthere]
  case accepted => rw [haccepted, hothers]
  case conflicts =>
    rw [hnone] at hconflicts
    exact hconflicts.eq_nil
  case errors => exact List.map_eq_nil_iff.mp (herrors.trans hnone')
  case saved =>
    rw [hgives.importing_eq hfetch hloads hsession.awaits, hsaves]
    rfl
  case stored => exact fun m hm hnot => htakes.exists_stored hs hdistinct hm hnot
  case others => exact fun i q hother => htakes.answer?_eq hs hdistinct hother
  case idle => exact htakes.last_eq

/-- **An answer that was imported is there just if it is a text or null.** -/
theorem Imported.has_eq {report : ImportReport} (hs : Fillable link row s)
    (hlast : Fillable link row last)
    (h : Imported link row answers (s.tables.has link) s report last)
    (hdistinct : answers.names.Nodup) (hm : m ∈ answers) :
    last.tables.has link m = m.2.isTextual := by
  cases hhas : s.tables.has link m with
  | true =>
      have hkept : last.tables.answerAt link m.1 = s.tables.answerAt link m.1 := by
        rw [hs.answerAt_eq, hlast.answerAt_eq]
        refine h.others row.id m.1 fun other hother hnot heq => ?_
        obtain rfl : m = other := List.inj_on_of_nodup_map hdistinct hm hother (Prod.mk.inj heq).2
        rw [hhas] at hnot
        cases hnot
      rw [Tables.has_congr hkept, hhas, Tables.isTextual_of_has hhas]
  | false =>
      obtain ⟨a, hanswer, hvalue, -⟩ := h.stored m hm hhas
      exact Tables.has_of_answer hanswer hvalue

/-- What is neither a text nor null is never there, so the import has saved it. -/
theorem Imported.exists_saved {report : ImportReport}
    (h : Imported link row answers (s.tables.has link) s report last) (hm : m ∈ answers)
    (hother : m.2.isTextual = false) :
    ∃ a, last.tables.answerAt link m.1 = some a ∧ a.value = m.2.text? ∧
      a.version.writes = s.tables.timesAnswered link m.1 + 1 := by
  refine h.stored m hm ?_
  by_contra hthere
  have htextual := Tables.isTextual_of_has (eq_true_of_ne_false hthere)
  rw [hother] at htextual
  cases htextual

/-- An import keeps the tables well-formed. -/
theorem wellFormed_of_imports (hsettled : s.Settled) (hformed : s.tables.WellFormed)
    (link answers : Json) (submit : Bool) :
    ((importAnswers store link answers submit).run s).2.tables.WellFormed := by
  have hbefore : Lasting Tables.WellFormed s := .of_settled hsettled hformed
  have hafter : Lasting Tables.WellFormed (s.turn (.importing link answers submit)) :=
    hbefore.turn fun op _ => Tables.stable_wellFormed op
  exact hafter.2

/-- A questionnaire that was answered in part, ready for an import. -/
theorem fillable_answering :
    let s := (blank ⟨0⟩ (fun _ => "k") 0 (some "/fill")).turns answering
    Fillable "k" answeredRow s ∧ s.tables.WellFormed := by
  intro s
  have hversions : Lasting Tables.WellVersioned s :=
    (lasting_blank Tables.wellVersioned_empty ⟨0⟩ (fun _ => "k") 0 (some "/fill")).turns
      fun _ _ op _ => Tables.stable_wellVersioned op
  have hformed : Lasting Tables.WellFormed s :=
    (lasting_blank Tables.wellFormed_empty ⟨0⟩ (fun _ => "k") 0 (some "/fill")).turns
      fun _ _ op _ => Tables.stable_wellFormed op
  have hsettled : s.Settled := by
    unfold Settled
    decide +kernel
  exact ⟨⟨⟨hsettled, hversions.2⟩, by decide +kernel, rfl⟩, hformed.2⟩

end Service

end Questionnaire
