/-
A respondent who is alone.

A session shows an answer at once and takes over its version when the save is accepted; the other
answers it never looks at again.  While nobody else writes, that is enough: after every answer the
session is the one that would be loaded afresh, `InStep`.  For a save changes one row and leaves it
in its place, or puts it behind the others, `Tables.put`, and so whatever is told of the rows
changes by one entry, `told_put`, just as the answers and the versions of the session do.  The
presentation was refreshed and not rendered, which is the same, `refresh_render`.
-/
import Questionnaire.Proofs.Presentation.Refresh
import Questionnaire.Proofs.Service.Importing

namespace Questionnaire

open FillSession (load loaded setAnswer)

theorem Fields.set_ofEntries {α : Type} (es : Entries α) (name : String) (value : α) :
    (ofEntries es).set (.str name) value = ofEntries (es.set name value) := by
  induction es with
  | nil => rfl
  | cons e es ih =>
      obtain ⟨n, v⟩ := e
      show Fields.set ((.str n, v) :: ofEntries es) (.str name) value = _
      by_cases hn : n = name
      · simp [set, Entries.set, samePart_str, hn, ofEntries]
      · rw [set, samePart_str, beq_eq_false_iff_ne.mpr hn, if_neg Bool.false_ne_true, ih,
          Entries.set, if_neg hn]
        rfl

namespace Tables

variable {t : Tables} {i : Int} {q : String} {value : Option String} {now : Moment}
  {a : StoredAnswer} {α : Type}

/-- The tables after an answer was accepted: it is written once more, or it is the first one. -/
def put (t : Tables) (i : Int) (q : String) (value : Option String) (now : Moment) : Tables :=
  match t.answer? i q with
  | some _ => t.renew i q value now
  | none => t.withAnswer (Service.firstAnswer i q value now)

theorem put_of_some {b : StoredAnswer} (h : t.answer? i q = some b) :
    t.put i q value now = t.renew i q value now := by
  rw [put, h]

theorem put_of_none (h : t.answer? i q = none) :
    t.put i q value now = t.withAnswer (Service.firstAnswer i q value now) := by
  rw [put, h]

@[simp] theorem instances_put (t : Tables) (i : Int) (q : String) (value : Option String)
    (now : Moment) : (t.put i q value now).instances = t.instances := by
  unfold put
  split <;> rfl

@[simp] theorem templates_put (t : Tables) (i : Int) (q : String) (value : Option String)
    (now : Moment) : (t.put i q value now).templates = t.templates := by
  unfold put
  split <;> rfl

theorem Sound.put (h : t.Sound) {row : Instance} (hrow : row ∈ t.instances) :
    (t.put row.id q value now).Sound := by
  refine ⟨by rw [instances_put]; exact h.ids, by rw [instances_put]; exact h.links, ?_⟩
  rw [instances_put]
  intro a ha
  cases hfound : t.answer? row.id q with
  | some b =>
      rw [put_of_some hfound] at ha
      obtain ⟨c, hc, rfl⟩ := List.mem_map.mp ha
      obtain ⟨owner, howner, hid⟩ := h.owned c hc
      refine ⟨owner, howner, hid.trans ?_⟩
      split <;> rfl
  | none =>
      rw [put_of_none hfound] at ha
      rcases List.mem_append.mp ha with hold | hlast
      · exact h.owned a hold
      · rw [List.mem_singleton.mp hlast]
        exact ⟨row, hrow, rfl⟩

/-- A column that can hold the next version of an answer can hold the present one. -/
theorem WellVersioned.fits_timesAnswered (h : t.WellVersioned) {link : String}
    (hfits : Database.fits (t.timesAnswered link q + 1) = true) :
    Database.fits (t.timesAnswered link q) = true := by
  have hnonneg := h.timesAnswered_nonneg link q
  rw [Database.fits_iff] at hfits ⊢
  omega

/-! ### What is told of the answers -/

/-- What is told of each answer of an instance, under its question. -/
def told (t : Tables) (i : Int) (f : StoredAnswer → α) : Entries α :=
  (t.answersOf i).map fun a => (a.questionId, f a)

theorem WellVersioned.nodup_told (h : t.WellVersioned) (i : Int) (f : StoredAnswer → α) :
    (t.told i f).names.Nodup := by
  have hkeys : (t.answersOf i).map answerKey = (t.told i f).names.map (Prod.mk i) := by
    rw [told, Entries.names, List.map_map, List.map_map]
    refine List.map_congr_left fun a ha => ?_
    exact congrArg (·, a.questionId) (of_decide_eq_true (List.mem_filter.mp ha).2)
  have hdistinct : ((t.answersOf i).map answerKey).Nodup :=
    (List.filter_sublist.map answerKey).nodup h.once
  rw [hkeys] at hdistinct
  exact hdistinct.of_map

theorem answersOf_renew (t : Tables) (i : Int) (q : String) (value : Option String)
    (now : Moment) :
    (t.renew i q value now).answersOf i =
      (t.answersOf i).map fun a => if isAnswerTo i q a then renewed value now a else a := by
  rw [answersOf, answersOf, renew, List.filter_map]
  refine congrArg (List.map _) (List.filter_congr fun a _ => ?_)
  rw [Function.comp_apply]
  split <;> rfl

theorem answersOf_withAnswer {row : StoredAnswer} (hinstance : row.instanceId = i) :
    (t.withAnswer row).answersOf i =
      t.answersOf i ++ [{ row with id := nextId (t.answers.map (·.id)) }] := by
  simp [answersOf, withAnswer, hinstance]

/-- **Accepting an answer changes what is told of the answers by one entry.** -/
theorem told_put (h : t.WellVersioned) (ha : (t.put i q value now).answer? i q = some a)
    (f : StoredAnswer → α) :
    (t.put i q value now).told i f = (t.told i f).set q (f a) := by
  cases hfound : t.answer? i q with
  | none =>
      have hnone : (t.told i f).get? q = none := by
        rw [told, get?_answersOf, hfound]
        rfl
      rw [put_of_none hfound] at ha ⊢
      rw [withAnswer, answer?_append hfound rfl, if_pos rfl] at ha
      obtain rfl := Option.some.inj ha
      have howner : (Service.firstAnswer i q value now).instanceId = i := rfl
      rw [Entries.set_of_get?_eq_none hnone, told, told, answersOf_withAnswer howner,
        List.map_append]
      rfl
  | some b =>
      rw [put_of_some hfound] at ha ⊢
      rw [answer?_renew, if_pos rfl, hfound] at ha
      obtain rfl := Option.some.inj ha
      have hmem : q ∈ (t.told i f).names := by
        obtain ⟨hb, hkey⟩ := mem_of_answer? hfound
        obtain ⟨hi, hq⟩ := isAnswerTo_iff.mp hkey
        rw [told, Entries.names, List.map_map, ← hq]
        exact List.mem_map_of_mem (List.mem_filter.mpr ⟨hb, decide_eq_true hi⟩)
      rw [Entries.set_eq_map (h.nodup_told i f) hmem, told, told, answersOf_renew, List.map_map,
        List.map_map]
      refine List.map_congr_left fun c hc => ?_
      obtain ⟨hcmem, hci⟩ := List.mem_filter.mp hc
      rw [Function.comp_apply, Function.comp_apply]
      by_cases hcq : c.questionId = q
      · -- The rows of one question are one row.
        have hkey := isAnswerTo_iff.mpr ⟨of_decide_eq_true hci, hcq⟩
        obtain rfl : b = c := Option.some.inj (hfound.symm.trans (h.answer?_of_mem hcmem hkey))
        rw [if_pos hkey, if_pos hcq, ← hcq]
        rfl
      · rw [if_neg fun hkey => hcq (isAnswerTo_iff.mp hkey).2, if_neg hcq]

end Tables

namespace FillSession

variable {t : Tables} {row : Instance} {q : String} {value : Option String} {now : Moment}
  {a : StoredAnswer}

/-- A session that has just loaded an instance of a template. -/
def afresh (t : Tables) (row : Instance) (source : Template) (d : Document) : FillSession :=
  loaded (t.handout row source) d (t.records row.id)
    (t.told row.id fun a => .int a.version.writes) {}

/-- **Applying an answer and recording that it was accepted is loading afresh.** -/
theorem afresh_put (h : t.WellVersioned)
    (ha : (t.put row.id q value now).answer? row.id q = some a) (hvalue : a.value = value)
    (hversion : a.version = .whole a.version.writes) (source : Template) (d : Document) :
    ((afresh t row source d).applyAnswer
        (Presentation.render d (Answers.flatten (t.records row.id)))
        (.str q) (.ofText? value)).record (.str q) (Service.written a) =
      afresh (t.put row.id q value now) row source d := by
  have hanswers : Fields.set (.ofEntries (Answers.flatten (t.records row.id))) (.str q)
      (.ofText? value) =
        .ofEntries (Answers.flatten ((t.put row.id q value now).records row.id)) := by
    rw [Fields.set_ofEntries, Tables.flatten_records, Tables.flatten_records]
    exact congrArg _ (hvalue ▸ (Tables.told_put h ha fun a => Json.ofText? a.value).symm)
  have hversions : Fields.set (.ofEntries (t.told row.id fun a => .int a.version.writes)) (.str q)
      a.version.toJson =
        .ofEntries ((t.put row.id q value now).told row.id fun a => .int a.version.writes) := by
    rw [Fields.set_ofEntries, Tables.told_put h ha, hversion]
    rfl
  simp only [afresh, loaded, applyAnswer, record, Service.written, hanswers, hversions,
    Fields.named_ofEntries, Presentation.refresh_render]
  rfl

end FillSession

namespace Service

open FillSession (afresh)

variable {link id q : String} {value : Option String} {now : Moment} {row : Instance}
  {source : Template} {d : Document} {s : Service} {session : FillSession}

/-- **A save that names the version which is stored is accepted, and puts the answer there.** -/
theorem Fillable.run_save (h : Fillable link row s) (hid : id ≠ "")
    (hfits : Database.fits (s.tables.timesAnswered link id) = true) (value : Option String) :
    ∃ a, (save (.str link) (.str id) (.ofText? value)
        (.int (s.tables.timesAnswered link id))).run s =
          (.ok (written a), s.withTables (s.tables.put row.id id value s.now)) ∧
      Stored s row id value (s.tables.timesAnswered link id) a
        (s.withTables (s.tables.put row.id id value s.now)) := by
  have hin := h.admitted hid hfits
  have htext : (Json.ofText? value).text? = value := by cases value <;> rfl
  have hplace : (save (.str link) (.str id) (.ofText? value)
      (.int (s.tables.timesAnswered link id))).run s =
        (place .none (.str link) row.id id value (s.tables.timesAnswered link id) s.now).run s := by
    rw [save, run_saveAmong_of_admitted .none hin, htext]
  rw [hplace, run_place]
  cases hb : s.tables.answer? row.id id with
  | none =>
      rw [Tables.writeAnswer?_of_missing hb, Tables.put_of_none hb]
      exact stored_first (.str link) h.ready.versions (Tables.mem_of_under hin.found) hb value _
        s.now
  | some b =>
      have hwrites : b.version.writes = s.tables.timesAnswered link id :=
        (Tables.timesAnswered_of_answer ((h.answerAt_eq id).trans hb)).symm
      have hcounted := h.ready.versions.counted_answer? hb
      have hstored := stored_again h.ready.versions hb (Int.le_of_eq hwrites) value s.now
      have hfound := hstored.found
      rw [tables_withTables] at hfound
      rw [Tables.writeAnswer?_eq h.ready.versions, hb, Option.bind_some,
        if_pos ((hcounted.atMost_iff hfits).mpr (Int.le_of_eq hwrites)), Tables.put_of_some hb]
      dsimp only
      rw [hfound]
      exact ⟨_, rfl, hstored⟩

/-! ### One answer -/

/-- A session over an open questionnaire is the one that would be loaded afresh. -/
structure InStep (link : String) (row : Instance) (source : Template) (d : Document)
    (session : FillSession) (s : Service) : Prop where
  fillable : Fillable link row s
  sound : s.tables.Sound
  backed : s.tables.template? row.templateId = some source
  read : Document.load (.str source.content) = .ok d
  fits : Database.fits row.id = true
  current : session = afresh s.tables row source d

namespace InStep

theorem mem (h : InStep link row source d session s) : row ∈ s.tables.instances :=
  List.mem_of_find?_eq_some h.fillable.found

/-- Time that passes leaves a session in step. -/
theorem later (h : InStep link row source d session s) (now : Moment) :
    InStep link row source d session { s with now } where
  fillable := ⟨⟨h.fillable.ready.settled, h.fillable.ready.versions⟩, h.fillable.found,
    h.fillable.opened⟩
  sound := h.sound
  backed := h.backed
  read := h.read
  fits := h.fits
  current := h.current

/-- Loading a session that is in step changes nothing. -/
theorem reload (h : InStep link row source d session s) :
    (load store (.str link)).run (session, s) = (.ok ⟨⟩, (session, s)) := by
  have hhanded : s.tables.handed (.str link) = .ok (s.tables.handout row source) := by
    rw [Tables.handed, Tables.under_str, h.fillable.found]
    simp only [h.backed, Database.checked_eq_ok.mpr ⟨h.fits, rfl⟩]
    rfl
  have hseed := FillSession.seed_handout h.fillable.ready.versions row h.read session
  have hrun := FillSession.run_load store (.str link) session s
  simp only [store, run_respondent, hhanded, hseed] at hrun
  refine hrun.trans ?_
  rw [h.current]
  rfl

/-- The progress of a session is the one that its instance is shown with. -/
theorem progress (h : InStep link row source d session s) :
    ∃ p, session.progress = .ok p ∧ ∀ key, Database.Names key row.id →
      (showInstance key).run s =
        ((s.fillUrl row.link).map fun url => s.tables.shown row url source d, s) ∧
      ∀ url, (s.tables.shown row url source d).getD "progress" = p.toJson := by
  have hnamed : session.answers.named = Answers.flatten (s.tables.records row.id) := by
    rw [h.current]
    exact Fields.named_ofEntries _
  refine ⟨(Presentation.render d (Answers.flatten (s.tables.records row.id))).progress
    (Answers.flatten (s.tables.records row.id)), ?_, fun key hkey => ⟨?_, fun url => rfl⟩⟩
  · rw [FillSession.progress, hnamed, h.current]
    rfl
  · exact run_showInstance_of_source h.sound h.mem h.backed h.read hkey

theorem version_eq (h : InStep link row source d session s) (id : String) :
    session.version (.str id) = .int (s.tables.timesAnswered link id) := by
  have hcounted : ∀ a ∈ s.tables.answersOf row.id, a.version.Counted :=
    fun a ha => h.fillable.ready.versions.counted a (List.mem_of_mem_filter ha)
  rw [h.current]
  exact (FillSession.holds_loaded h.fillable.ready.versions h.fillable.found _ d
    (FillSession.versionsOf_records hcounted) {} id).1

theorem asks (h : InStep link row source d session s) (hid : id ≠ "") :
    session.Asks (.str id) (Presentation.render d (Answers.flatten (s.tables.records row.id))) := by
  rw [h.current]
  exact ⟨rfl, decide_eq_true hid, rfl, h.fillable.opened, rfl⟩

/-- **An answer that is given by a session in step is accepted, and the session is in step
again.** -/
theorem answer (h : InStep link row source d session s) (hid : id ≠ "")
    (hfits : Database.fits (s.tables.timesAnswered link id + 1) = true) (value : Option String) :
    ∃ a session' after,
      (setAnswer store (.str link) (.str id) (.ofText? value)).run (session, s) =
        (.ok (written a), (session', after)) ∧
      Stored s row id value (s.tables.timesAnswered link id) a after ∧
      session'.answers = session.answers.set (.str id) (.ofText? value) ∧
      InStep link row source d session' after := by
  have hbefore := h.fillable.ready.versions.fits_timesAnswered hfits
  obtain ⟨a, hsave, hstored⟩ := h.fillable.run_save hid hbefore value
  have hrun : (setAnswer store (.str link) (.str id) (.ofText? value)).run (session, s) = _ :=
    FillSession.run_setAnswer_of_asks (h.asks hid) s
  simp only [h.version_eq, store, hsave] at hrun
  refine ⟨a, _, _, hrun, hstored, rfl, ?_⟩
  -- The version of the row is counted in full, so it is told as the number that a load takes over.
  have hversion : a.version = .whole a.version.writes := by
    have hcounted := hstored.ready.versions.counted_answer? hstored.found
    refine hcounted.eq_whole ?_
    rw [hstored.writes h.fillable.ready h.fillable.found hbefore]
    exact hfits
  constructor
  case fillable => exact hstored.fillable h.fillable
  case sound => exact h.sound.put h.mem
  case backed =>
    rw [Tables.template?, tables_withTables, Tables.templates_put]
    exact h.backed
  case read => exact h.read
  case fits => exact h.fits
  case current =>
    rw [h.current]
    exact FillSession.afresh_put h.fillable.ready.versions hstored.found hstored.value_eq hversion
      source d

end InStep

/-- A session that was loaded is in step. -/
theorem Fillable.inStep_of_load (h : Fillable link row s) (hsound : s.tables.Sound)
    {before : FillSession}
    (hload : (load store (.str link)).run (before, s) = (.ok ⟨⟩, (session, s))) :
    ∃ source d, InStep link row source d session s := by
  have hrun := FillSession.run_load store (.str link) before s
  simp only [store, run_respondent, Tables.handed, Tables.under_str, h.found] at hload hrun
  rw [hload] at hrun
  cases hbacked : s.tables.template? row.templateId with
  | none =>
      rw [hbacked] at hrun
      cases hrun
  | some source =>
  cases hid : Database.checked row.id with
  | error failure =>
      rw [hbacked, hid] at hrun
      cases hrun
  | ok i =>
  rw [hbacked, hid] at hrun
  simp only [Except.map] at hrun
  have hseeds := FillSession.seeds (s.tables.handout row source) before
  generalize hreached : (FillSession.seed (s.tables.handout row source)).run before = reached
    at hrun hseeds
  cases hseeds with
  | noObject | noDocument | noRecords | noVersions => cases hrun
  | @completed d records versions hobject hdocument hrecords hversions =>
      rw [s.tables.content_handout row source] at hdocument
      have hseed := FillSession.seed_handout h.ready.versions row hdocument before
      rw [hreached] at hseed
      refine ⟨source, d, ?_⟩
      constructor
      case fillable => exact h
      case sound => exact hsound
      case backed => exact hbacked
      case read => exact hdocument
      case fits => exact (Database.checked_eq_ok.mp hid).1
      case current => exact (congrArg (·.2.1) hrun).trans (congrArg Prod.snd hseed)

/-! ### One answer after the other -/

/-- An answer that is given at some moment, a text or null. -/
structure Edit where
  now : Moment
  id : String
  value : Option String

/-- Answers after others were given. -/
def edited (answers : Fields Json) (edits : List Edit) : Fields Json :=
  edits.foldl (fun answers e => answers.set (.str e.id) (.ofText? e.value)) answers

/-- Gives one answer after the other, each at its moment. -/
def give (link : String) :
    List Edit → FillSession × Service → List (Except Failure SaveOutcome) × FillSession × Service
  | [], w => ([], w)
  | e :: edits, (session, s) =>
    let (outcome, w) := (setAnswer store (.str link) (.str e.id) (.ofText? e.value)).run
      (session, { s with now := e.now })
    let (outcomes, last) := give link edits w
    (outcome :: outcomes, last)

end Service

/-- There are versions left for answers that are given. -/
def Tables.HasRoomFor (t : Tables) (link : String) (edits : List Service.Edit) : Prop :=
  ∀ e ∈ edits,
    Database.fits (t.timesAnswered link e.id + edits.countP fun other => other.id = e.id) = true

namespace Service

variable {link : String} {row : Instance} {source : Template} {d : Document} {s after : Service}
  {session : FillSession} {e : Edit} {edits : List Edit}

/-- There is a version left for the first answer. -/
theorem fits_of_hasRoomFor (hs : s.Ready) (hroom : s.tables.HasRoomFor link (e :: edits)) :
    Database.fits (s.tables.timesAnswered link e.id + 1) = true := by
  have hfirst := hroom e List.mem_cons_self
  have hnonneg := hs.versions.timesAnswered_nonneg link e.id
  rw [List.countP_cons, if_pos (decide_eq_true rfl)] at hfirst
  rw [Database.fits_iff] at hfirst ⊢
  omega

/-- An answer that is stored takes the version that was left for it. -/
theorem Stored.hasRoomFor {value : Option String} {a : StoredAnswer}
    (h : Stored s row e.id value (s.tables.timesAnswered link e.id) a after)
    (hs : Fillable link row s) (hroom : s.tables.HasRoomFor link (e :: edits)) :
    after.tables.HasRoomFor link edits := by
  have hfits := hs.ready.versions.fits_timesAnswered (fits_of_hasRoomFor hs.ready hroom)
  intro other hother
  have hbefore := hroom other (List.mem_cons_of_mem _ hother)
  rw [List.countP_cons] at hbefore
  by_cases hid : e.id = other.id
  · have hanswer := h.answerAt hs.found
    rw [hid] at hanswer
    rw [Tables.timesAnswered_of_answer hanswer, h.writes hs.ready hs.found hfits, hid]
    rw [if_pos (decide_eq_true hid)] at hbefore
    -- What the row has counted more, the answers that are left have less.
    rw [← hbefore]
    congr 1
    push_cast
    omega
  · rw [h.timesAnswered_eq hs (Ne.symm hid)]
    rw [if_neg (by simpa using hid)] at hbefore
    exact hbefore

/-- **A session that is in step is so after any answers, and all of them are accepted.** -/
theorem InStep.give (h : InStep link row source d session s) (hnamed : ∀ e ∈ edits, e.id ≠ "")
    (hroom : s.tables.HasRoomFor link edits) :
    ∃ outcomes session' last, give link edits (session, s) = (outcomes, (session', last)) ∧
      outcomes.length = edits.length ∧ (∀ outcome ∈ outcomes, Accepted outcome) ∧
      session'.answers = edited session.answers edits ∧ InStep link row source d session' last := by
  induction edits generalizing session s with
  | nil => exact ⟨[], session, s, rfl, rfl, by simp, rfl, h⟩
  | cons e edits ih =>
      have hfits := fits_of_hasRoomFor h.fillable.ready hroom
      obtain ⟨a, session', after, hrun, hstored, hanswers, hnext⟩ :=
        (h.later e.now).answer (hnamed e List.mem_cons_self) hfits e.value
      obtain ⟨outcomes, sessionEnd, last, hgive, hlength, haccepted, hedited, hinstep⟩ :=
        ih hnext (fun e he => hnamed e (List.mem_cons_of_mem _ he))
          (hstored.hasRoomFor (h.later e.now).fillable hroom)
      refine ⟨.ok (written a) :: outcomes, sessionEnd, last, ?_, congrArg (· + 1) hlength,
        List.forall_mem_cons.mpr ⟨accepted_written a, haccepted⟩, ?_, hinstep⟩
      · rw [Service.give, hrun]
        simp only [hgive]
      · rw [hedited, hanswers]
        rfl

end Service

end Questionnaire
