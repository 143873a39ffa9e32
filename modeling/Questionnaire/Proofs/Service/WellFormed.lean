/-
What the tables are like after any run.

The tables say nothing about each other; it is the operations that keep them together.  A row is
only added for an owner that is there, and an owner is only taken away when it owns nothing or with
all that it owns; a link is given out only where nothing has it; a template's content was checked
before it came in; and the lock and the moment of submission are set and taken back together.
So tables that are well-formed stay so under every change of every operation,
`stable_wellFormed`, whatever the links that are drawn.

What is read from such tables is never broken: under the link of an instance a session loads, and
an instance is shown with how far its answers go.
-/
import Questionnaire.Proofs.Fill.Loading
import Questionnaire.Proofs.Service.Frozen

namespace Questionnaire

open Service (Operation)

namespace Tables

variable {t u : Tables} {row : Instance} {source : Template} {i : Int}

/-- Tables whose rows belong together. -/
structure WellFormed (t : Tables) : Prop extends Sound t where
  /-- Every instance belongs to a template. -/
  backed : ∀ row ∈ t.instances, ∃ source ∈ t.templates, source.id = row.templateId
  /-- An instance is locked just if it is known when it was submitted. -/
  dated : ∀ row ∈ t.instances, row.isLocked = row.submittedAt.isSome
  /-- Every template reads as a document without findings. -/
  storable : ∀ source ∈ t.templates, Content.Storable source.content

theorem wellFormed_empty : WellFormed {} where
  toSound := sound_empty
  backed := by simp
  dated := by simp
  storable := by simp

/-! ### What a change of one row leaves -/

theorem forall_modifyInstance {P : Instance → Prop} {f : Instance → Instance}
    (h : ∀ row ∈ t.instances, P row) (hf : ∀ row, P row → P (f row)) (i : Int) :
    ∀ row ∈ (t.modifyInstance i f).instances, P row := by
  intro row hrow
  obtain ⟨old, hold, rfl⟩ := List.mem_map.mp hrow
  split
  · exact hf old (h old hold)
  · exact h old hold

theorem forall_modifyTemplate {P : Template → Prop} {f : Template → Template}
    (h : ∀ source ∈ t.templates, P source) (hf : ∀ source, P source → P (f source)) (i : Int) :
    ∀ source ∈ (t.modifyTemplate i f).templates, P source := by
  intro source hsource
  obtain ⟨old, hold, rfl⟩ := List.mem_map.mp hsource
  split
  · exact hf old (h old hold)
  · exact h old hold

/-- A template that is edited is still there under its id. -/
theorem mem_modifyTemplate {f : Template → Template} (hf : ∀ row, (f row).id = row.id) (j : Int)
    (h : ∃ source ∈ t.templates, source.id = i) :
    ∃ source ∈ (t.modifyTemplate j f).templates, source.id = i := by
  obtain ⟨source, hsource, hid⟩ := h
  refine ⟨_, List.mem_map.mpr ⟨source, hsource, rfl⟩, ?_⟩
  split
  · exact (hf source).trans hid
  · exact hid

namespace WellFormed

variable (h : t.WellFormed)

include h

/-- The answers alone change. -/
theorem of_rows (hsound : u.Sound) (htemplates : u.templates = t.templates)
    (hinstances : u.instances = t.instances) : u.WellFormed := by
  refine ⟨hsound, ?_, ?_, ?_⟩
  · rw [hinstances, htemplates]
    exact h.backed
  · rw [hinstances]
    exact h.dated
  · rw [htemplates]
    exact h.storable

/-- One instance changes, and stays of its template. -/
theorem modifyInstance {f : Instance → Instance} (hsound : (t.modifyInstance i f).Sound)
    (htemplate : ∀ row, (f row).templateId = row.templateId)
    (hdated : ∀ row, (f row).isLocked = (f row).submittedAt.isSome) :
    (t.modifyInstance i f).WellFormed where
  toSound := hsound
  backed := by
    refine forall_modifyInstance h.backed (fun row hrow => ?_) i
    rw [htemplate]
    exact hrow
  dated := forall_modifyInstance h.dated (fun row _ => hdated row) i
  storable := h.storable

/-- One template changes, and its content stays or was checked. -/
theorem modifyTemplate {f : Template → Template} (hsound : (t.modifyTemplate i f).Sound)
    (hid : ∀ row, (f row).id = row.id)
    (hcontent : ∀ row, (f row).content = row.content ∨ Content.Storable (f row).content) :
    (t.modifyTemplate i f).WellFormed where
  toSound := hsound
  backed := fun row hrow => mem_modifyTemplate hid i (h.backed row hrow)
  dated := h.dated
  storable := by
    refine forall_modifyTemplate h.storable (fun source hsource => ?_) i
    rcases hcontent source with hsame | hstorable
    · rw [hsame]
      exact hsource
    · exact hstorable

theorem addTemplate {new : Template} (hsound : u.Sound) (hadd : t.addTemplate new = .ok (source, u))
    (hcontent : Content.Storable new.content ∨ ∃ old ∈ t.templates, new.content = old.content) :
    u.WellFormed := by
  have hstorable : Content.Storable source.content := by
    rw [content_of_addTemplate hadd]
    rcases hcontent with hnew | ⟨old, hold, hsame⟩
    · exact hnew
    · rw [hsame]
      exact h.storable old hold
  obtain rfl := addTemplate_eq_ok hadd
  refine ⟨hsound, fun row hrow => ?_, h.dated, fun other hother => ?_⟩
  · obtain ⟨old, hold, hid⟩ := h.backed row hrow
    exact ⟨old, List.mem_append_left _ hold, hid⟩
  · rcases List.mem_append.mp hother with hold | hlast
    · exact h.storable other hold
    · rw [List.mem_singleton.mp hlast]
      exact hstorable

/-- A template goes that has no instances. -/
theorem dropTemplate (hsound : (t.dropTemplate i).Sound) (hempty : t.instancesOf i = []) :
    (t.dropTemplate i).WellFormed where
  toSound := hsound
  backed row hrow := by
    obtain ⟨source, hsource, hid⟩ := h.backed row hrow
    refine ⟨source, List.mem_filter.mpr ⟨hsource, decide_eq_true ?_⟩, hid⟩
    intro hi
    have hmem : row ∈ t.instancesOf i :=
      List.mem_filter.mpr ⟨hrow, decide_eq_true (hid.symm.trans hi)⟩
    rw [hempty] at hmem
    cases hmem
  dated := h.dated
  storable source hsource := h.storable source (List.mem_of_mem_filter hsource)

/-- An open instance comes in for a template that is there. -/
theorem addInstance {new : Instance} (hsound : u.Sound) (hadd : t.addInstance new = .ok (row, u))
    (hopened : new.isLocked = false) (hunsubmitted : new.submittedAt = none) :
    u.WellFormed := by
  obtain ⟨hthere, -, hrow, rfl⟩ := addInstance_eq_ok hadd
  refine ⟨hsound, fun other hother => ?_, fun other hother => ?_, h.storable⟩
  · rcases List.mem_append.mp hother with hold | hlast
    · exact h.backed other hold
    · rw [List.mem_singleton.mp hlast, hrow]
      obtain ⟨source, hsource⟩ := Option.isSome_iff_exists.mp hthere
      have hid := List.find?_some hsource
      exact ⟨source, List.mem_of_find?_eq_some hsource, of_decide_eq_true hid⟩
  · rcases List.mem_append.mp hother with hold | hlast
    · exact h.dated other hold
    · rw [List.mem_singleton.mp hlast, hrow]
      show new.isLocked = new.submittedAt.isSome
      rw [hopened, hunsubmitted]
      rfl

theorem dropInstance (hsound : (t.dropInstance i).Sound) : (t.dropInstance i).WellFormed where
  toSound := hsound
  backed row hrow := h.backed row (List.mem_of_mem_filter hrow)
  dated row hrow := h.dated row (List.mem_of_mem_filter hrow)
  storable := h.storable

end WellFormed

/-- **Well-formed tables stay well-formed.** -/
theorem stable_wellFormed (op : Operation) : Stable op WellFormed := by
  intro t u h hstep
  have hsound := stable_sound op t u h.toSound hstep
  cases hstep with
  | author hadd =>
      obtain rfl := addAdmin_eq_ok hadd
      exact h.of_rows hsound rfl rfl
  | loggedIn => exact h.of_rows hsound rfl rfl
  | template hadd hcontent => exact h.addTemplate hsound hadd hcontent
  | edited i f hid _ hcontent => exact h.modifyTemplate hsound hid hcontent
  | archived => exact h.modifyTemplate hsound (fun _ => rfl) fun _ => Or.inl rfl
  | withoutTemplate i hempty => exact h.dropTemplate hsound hempty
  | sent _ hadd hopened hunsubmitted => exact h.addInstance hsound hadd hopened hunsubmitted
  | submitted | unlocked => exact h.modifyInstance hsound (fun _ => rfl) fun _ => rfl
  | deleted => exact h.dropInstance hsound
  | first _ hadd | lateFirst _ hadd =>
      obtain ⟨-, -, rfl⟩ := addAnswer_eq_ok hadd
      exact h.of_rows hsound rfl rfl
  | again _ hwrite | lateAgain _ _ hwrite =>
      obtain rfl := writeAnswer?_eq_map hwrite
      exact h.of_rows hsound rfl rfl

/-- The template of an instance is found and reads as a document. -/
theorem WellFormed.source_of_mem (h : t.WellFormed) (hrow : row ∈ t.instances) :
    ∃ source d, t.template? row.templateId = some source ∧
      Document.load (.str source.content) = .ok d := by
  obtain ⟨other, hother, hid⟩ := h.backed row hrow
  obtain ⟨source, hsource⟩ : ∃ source, t.template? row.templateId = some source :=
    Option.isSome_iff_exists.mp (List.find?_isSome.mpr ⟨other, hother, decide_eq_true hid⟩)
  obtain ⟨d, hload, -⟩ := h.storable source (List.mem_of_find?_eq_some hsource)
  exact ⟨source, d, hsource, hload⟩

end Tables

/-! ### What is read -/

/-- The content in what is handed out; an empty one counts as missing and is empty again. -/
theorem Tables.content_handout (t : Tables) (row : Instance) (source : Template) :
    ((t.handout row source).getD "template_content").orElse (.str "") = .str source.content := by
  show (Json.str source.content).orElse (.str "") = _
  unfold Json.orElse
  split
  case isTrue => rfl
  case isFalse hfalse =>
    have hempty : source.content = "" := by simpa [Json.truthy] using hfalse
    rw [hempty]

/-- Taking over what is handed out completes, if its content reads as a document. -/
theorem FillSession.seed_handout {t : Tables} (h : t.WellVersioned) (row : Instance)
    {source : Template} {d : Document} (hload : Document.load (.str source.content) = .ok d)
    (s : FillSession) :
    (seed (t.handout row source)).run s =
      (.ok ⟨⟩, loaded (t.handout row source) d (t.records row.id)
        ((t.answersOf row.id).map fun a => (a.questionId, .int a.version.writes)) s) := by
  have hrecords : recordsOf (t.handout row source) = .ok (t.records row.id) := recordsOf_eq rfl
  have hcounted : ∀ a ∈ t.answersOf row.id, a.version.Counted :=
    fun a ha => h.counted a (List.mem_of_mem_filter ha)
  have hversions := versionsOf_records hcounted
  rw [← Tables.records] at hversions
  rw [← t.content_handout row source] at hload
  exact (Seeds.completed rfl hload hrecords hversions).run

/-- An instance as it is shown, with how far its answers go on a document. -/
def Tables.shown (t : Tables) (row : Instance) (url : String) (source : Template) (d : Document) :
    Json :=
  let answers := Answers.flatten (t.records row.id)
  .obj (t.instanceMembers row ++ [("url", .str url)] ++
    [("template_content", .str source.content), ("answers", .obj (t.records row.id)),
      ("answer_count", .int (t.records row.id).length),
      ("progress", ((Presentation.render d answers).progress answers).toJson)])

namespace Service

variable {s : Service} {row : Instance}

/-- What can be read of an instance, under its link and by its id. -/
structure Reads (row : Instance) (s : Service) : Prop where
  /-- Loading never meets a broken document; it fails just if no column could hold the id. -/
  load : ∀ link session, Database.column link = .ok (some row.link) →
    ∃ outcome after, (FillSession.load store link).run (session, s) = (outcome, (after, s)) ∧
      (∀ fault, outcome ≠ .error (.malformed fault)) ∧
      (Database.fits row.id = true → outcome = .ok ⟨⟩)
  /-- What is shown has a progress; it is not shown just if there is no address to show. -/
  shown : ∀ key, Database.Names key row.id →
    ∃ source d, s.tables.template? row.templateId = some source ∧
      Document.load (.str source.content) = .ok d ∧
      (showInstance key).run s =
        ((s.fillUrl row.link).map fun url => s.tables.shown row url source d, s)

theorem run_load_of_source (hsound : s.tables.Sound) (hversions : s.tables.WellVersioned)
    (hrow : row ∈ s.tables.instances) {source : Template} {d : Document}
    (hsource : s.tables.template? row.templateId = some source)
    (hload : Document.load (.str source.content) = .ok d) {link : Json}
    (hlink : Database.column link = .ok (some row.link)) (session : FillSession) :
    ∃ after, (FillSession.load store link).run (session, s) =
      ((Database.checked row.id).map fun _ => ⟨⟩, (after, s)) := by
  have hrun := FillSession.run_load store link session s
  simp only [store, run_respondent, Tables.handed, hsound.under_of_mem hrow hlink, hsource] at hrun
  simp only [store]
  rw [hrun]
  cases Database.checked row.id with
  | error failure => exact ⟨session, rfl⟩
  | ok i =>
      simp only [Except.map, FillSession.seed_handout hversions row hload session]
      exact ⟨_, rfl⟩

theorem run_contentOf {source : Template}
    (hsource : s.tables.template? row.templateId = some source) :
    (contentOf row).run s = (.ok source, s) := by
  rw [contentOf, Attempt.run_bind, run_read, Attempt.andThen_ok, hsource]
  rfl

theorem progressOn_of_load {content : String} {d : Document}
    (hload : Document.load (.str content) = .ok d) (records : Entries Json) :
    progressOn content records =
      .ok ((Presentation.render d (Answers.flatten records)).progress
        (Answers.flatten records)).toJson := by
  delta progressOn
  rw [hload]

theorem run_showSent (row : Instance) (s : Service) :
    (showSent row).run s =
      ((s.fillUrl row.link).map fun url =>
        s.tables.instanceMembers row ++ [("url", .str url)], s) := by
  rw [showSent]
  simp only [Attempt.run_bind, Attempt.run_get, Attempt.andThen_ok, Attempt.run_lift]
  cases s.fillUrl row.link with
  | error failure => rfl
  | ok url => rfl

theorem run_loadAnswers {i : Int} (hfits : Database.fits i = true) :
    (loadAnswers (.int i)).run s = (.ok (s.tables.records i), s) := by
  simp only [loadAnswers, Attempt.run_bind, Attempt.run_lift, Database.id?_of_fits hfits,
    Attempt.andThen_ok, run_read]

theorem run_showInstance_of_source (hsound : s.tables.Sound) (hrow : row ∈ s.tables.instances)
    {source : Template} {d : Document}
    (hsource : s.tables.template? row.templateId = some source)
    (hload : Document.load (.str source.content) = .ok d) {key : Json}
    (hkey : Database.Names key row.id) :
    (showInstance key).run s =
      ((s.fillUrl row.link).map fun url => s.tables.shown row url source d, s) := by
  have hfound : s.tables.found key = .ok row := by
    rw [Tables.found_eq_ok, Tables.named_of_names hkey, hsound.instance?_of_mem hrow]
  rw [showInstance, Attempt.run_bind, run_findInstance, hfound, Attempt.andThen_ok,
    Attempt.run_bind, run_loadAnswers hkey.fits, Attempt.andThen_ok, Attempt.run_bind, run_showSent]
  cases s.fillUrl row.link with
  | error failure => rfl
  | ok url =>
      simp only [Except.map]
      rw [Attempt.andThen_ok, Attempt.run_bind, run_contentOf hsource, Attempt.andThen_ok,
        Attempt.run_bind, Attempt.run_lift, progressOn_of_load hload]
      rfl

/-- What is read of well-formed tables is never broken. -/
theorem reads_of_wellFormed (h : s.tables.WellFormed) (hversions : s.tables.WellVersioned)
    (hrow : row ∈ s.tables.instances) : Reads row s := by
  obtain ⟨source, d, hsource, hload⟩ := h.source_of_mem hrow
  refine ⟨fun link session hlink => ?_, fun key hkey => ⟨source, d, hsource, hload, ?_⟩⟩
  · obtain ⟨after, hrun⟩ :=
      run_load_of_source h.toSound hversions hrow hsource hload hlink session
    refine ⟨_, after, hrun, fun fault => ?_, fun hfits => ?_⟩
    · unfold Database.checked
      split <;> exact nofun
    · rw [Database.checked_eq_ok.mpr ⟨hfits, rfl⟩]
      rfl
  · exact run_showInstance_of_source h.toSound hrow hsource hload hkey

/-- **The tables are well-formed after any run.**  Whatever operations and imports were tried, with
whatever links that were drawn and however each ended: in what lasts and in what the session sees
every answer belongs to an instance and every instance to a template, no two instances share a
link, an instance is locked just if it was submitted, and every template reads as a document
without findings.  So every instance can be loaded and is shown with its progress. -/
theorem wellFormed_after_turns (now : Moment) (links : Nat → String) (drawn : Nat)
    (fillBase : Option String) (turns : List Turn) :
    let s := (blank now links drawn fillBase).turns turns
    (∀ t, t = s.database.committed ∨ t = s.database.working → t.WellFormed) ∧
      ∀ row ∈ s.tables.instances, Reads row s := by
  intro s
  have hformed : Lasting Tables.WellFormed s :=
    (lasting_blank Tables.wellFormed_empty now links drawn fillBase).turns
      fun _ _ op _ => Tables.stable_wellFormed op
  have hversions : Lasting Tables.WellVersioned s :=
    (lasting_blank Tables.wellVersioned_empty now links drawn fillBase).turns
      fun _ _ op _ => Tables.stable_wellVersioned op
  refine ⟨fun t ht => ?_, fun row hrow => reads_of_wellFormed hformed.2 hversions.2 hrow⟩
  rcases ht with rfl | rfl
  · exact hformed.1
  · exact hformed.2

/-- The instance of the questionnaire that was answered in part. -/
def answeredRow : Instance := { submittedRow with submittedAt := none, isLocked := false }

theorem wellFormed_after_answering :
    let s := (blank ⟨0⟩ (fun _ => "k") 0 (some "/fill")).turns answering
    answeredRow ∈ s.tables.instances ∧ Database.column (.str "k") = .ok (some answeredRow.link) ∧
      Database.fits answeredRow.id = true ∧ Database.Names (.int 1) answeredRow.id ∧
      (∃ after, (FillSession.load store (.str "k")).run ({}, s) = (.ok ⟨⟩, (after, s))) ∧
      ∃ source d, (showInstance (.int 1)).run s =
        (.ok (s.tables.shown answeredRow "/fill/k" source d), s) := by
  intro s
  have hmem : answeredRow ∈ s.tables.instances := by decide +kernel
  have hnames : Database.Names (.int 1) answeredRow.id := ⟨.int 1, rfl, rfl⟩
  have hreads := (wellFormed_after_turns ⟨0⟩ (fun _ => "k") 0 (some "/fill") answering).2
    answeredRow hmem
  obtain ⟨outcome, after, hload, -, hdone⟩ := hreads.load (.str "k") {} rfl
  obtain ⟨source, d, -, -, hshown⟩ := hreads.shown (.int 1) hnames
  refine ⟨hmem, rfl, rfl, hnames, ⟨after, ?_⟩, source, d, ?_⟩
  · rw [hload, hdone rfl]
  · rw [hshown]
    have hurl : s.fillUrl answeredRow.link = .ok "/fill/k" := eq_ok_of_toOption (by decide +kernel)
    rw [hurl]
    rfl

end Service

end Questionnaire
