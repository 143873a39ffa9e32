/-
A sent template is frozen.

That a template was sent is not written down anywhere: it is worked out from the instances, each
time before the template is changed.  As long as an instance is there, its template was sent, and
then neither an edit nor a deletion gets to the row; putting it away and bringing it back leaves
what respondents are shown.  `stable_backs` says so for each change, and for what is pending as
well, so that a later commit cannot bring out an edit that was given up.

The instance itself is given up by its deletion alone.  A run in which it is there at every moment
does not delete it.
-/
import Mathlib.Data.List.Infix
import Questionnaire.Proofs.Service.Found
import Questionnaire.Proofs.Service.Run

namespace Questionnaire

/-- What respondents are shown of a template. -/
structure Template.Alike (a b : Template) : Prop where
  name : a.name = b.name
  description : a.description = b.description
  content : a.content = b.content

open Service (Operation)

namespace Tables

variable {t u : Tables} {source current : Template} {i j : Int}

/-! ### Looking up a template -/

theorem template?_addTemplate {new row : Template} (hadd : t.addTemplate new = .ok (row, u))
    (h : t.template? j = some current) : u.template? j = some current := by
  rw [addTemplate_eq_ok hadd, template?, List.find?_append]
  exact Option.or_eq_some_iff.mpr (Or.inl h)

theorem template?_modifyTemplate {f : Template → Template} (hf : ∀ row, (f row).id = row.id) :
    (t.modifyTemplate i f).template? j =
      (t.template? j).map fun row => if row.id = i then f row else row := by
  have hid : ∀ row : Template, (if row.id = i then f row else row).id = row.id := by
    intro row
    split
    · exact hf row
    · rfl
  simp only [template?, modifyTemplate, List.find?_map, Function.comp_def, hid]

theorem template?_dropTemplate (hother : j ≠ i) :
    (t.dropTemplate i).template? j = t.template? j := by
  simp only [template?, dropTemplate, List.find?_filter]
  refine congrArg (fun p => t.templates.find? p) ?_
  funext row
  by_cases hj : row.id = j
  · simp [hj, hother]
  · simp [hj]

theorem id_of_template? (h : t.template? j = some current) : current.id = j := by
  have hid := List.find?_some h
  exact of_decide_eq_true hid

/-! ### Instances and their templates -/

/-- An instance with this id and link was sent, and its template is there and shows what the source
does. -/
structure Backs (i : Int) (link : String) (j : Int) (source : Template) (t : Tables) : Prop where
  sent : ∃ row ∈ t.instances,
    row.id = i ∧ row.link = link ∧ row.templateId = j ∧ row.sentAt.isSome = true
  template : ∃ current, t.template? j = some current ∧ current.Alike source

namespace Backs

variable {link : String} (h : t.Backs i link j source)

include h

theorem isSent : t.isSent j = true := by
  obtain ⟨row, hrow, -, -, htemplate, hsent⟩ := h.sent
  rw [Tables.isSent, List.any_eq_true]
  exact ⟨row, List.mem_filter.mpr ⟨hrow, decide_eq_true htemplate⟩, hsent⟩

theorem of_instances (hinstances : ∀ row ∈ t.instances, row ∈ u.instances)
    (htemplates : u.templates = t.templates) : u.Backs i link j source := by
  obtain ⟨⟨row, hrow, hsent⟩, htemplate⟩ := h
  refine ⟨⟨row, hinstances row hrow, hsent⟩, ?_⟩
  rw [template?, htemplates]
  exact htemplate

theorem modifyInstance {f : Instance → Instance} (k : Int)
    (hf : ∀ row, (f row).id = row.id ∧ (f row).link = row.link ∧
      (f row).templateId = row.templateId ∧ (f row).sentAt = row.sentAt) :
    (t.modifyInstance k f).Backs i link j source := by
  obtain ⟨⟨row, hrow, hid, hlink, htemplate, hsent⟩, hcurrent⟩ := h
  refine ⟨⟨_, List.mem_map.mpr ⟨row, hrow, rfl⟩, ?_⟩, hcurrent⟩
  obtain ⟨hfid, hflink, hftemplate, hfsent⟩ := hf row
  split
  · exact ⟨hfid.trans hid, hflink.trans hlink, hftemplate.trans htemplate, hfsent ▸ hsent⟩
  · exact ⟨hid, hlink, htemplate, hsent⟩

theorem modifyTemplate {f : Template → Template} (k : Int) (hid : ∀ row, (f row).id = row.id)
    (hf : k = j → ∀ row, (f row).Alike row) : (t.modifyTemplate k f).Backs i link j source := by
  obtain ⟨hsent, current, hcurrent, halike⟩ := h
  refine ⟨hsent, _, by rw [template?_modifyTemplate hid, hcurrent]; rfl, ?_⟩
  show Template.Alike (if current.id = k then f current else current) source
  by_cases hk : current.id = k
  · obtain ⟨hname, hdescription, hcontent⟩ :=
      hf (hk.symm.trans (id_of_template? hcurrent)) current
    rw [if_pos hk]
    exact ⟨hname.trans halike.name, hdescription.trans halike.description,
      hcontent.trans halike.content⟩
  · rw [if_neg hk]
    exact halike

end Backs

end Tables

namespace Service.Operation

/-- The operation is asked to delete an instance. -/
def Deletes (i : Int) : Operation → Prop
  | .deleteInstance key => Database.Names key i
  | _ => False

end Service.Operation

namespace Tables

variable {t u : Tables} {source : Template} {i j : Int} {link : String}

/-- A template that an instance was sent from stays as it is shown, and the instance stays, under
every change but a deletion of the instance. -/
theorem stable_backs {op : Operation} (hdelete : ¬op.Deletes i) :
    Stable op (Backs i link j source) := by
  intro t u h hstep
  cases hstep with
  | author hadd =>
      rw [addAdmin_eq_ok hadd]
      exact h.of_instances (fun _ hrow => hrow) rfl
  | template hadd =>
      obtain ⟨hsent, current, hcurrent, halike⟩ := h
      have hcurrent := template?_addTemplate hadd hcurrent
      rw [addTemplate_eq_ok hadd] at hcurrent ⊢
      exact ⟨hsent, current, hcurrent, halike⟩
  | loggedIn => exact h.of_instances (fun _ hrow => hrow) rfl
  | edited k f hid hunsent =>
      refine h.modifyTemplate k hid fun hk => ?_
      rw [hk, h.isSent] at hunsent
      cases hunsent
  | archived k archived now => exact h.modifyTemplate k (fun _ => rfl) fun _ _ => ⟨rfl, rfl, rfl⟩
  | withoutTemplate k hempty =>
      have hother : j ≠ k := by
        rintro rfl
        have hsent := h.isSent
        rw [isSent, hempty] at hsent
        cases hsent
      exact ⟨h.sent, by rw [template?_dropTemplate hother]; exact h.template⟩
  | sent _ hadd =>
      obtain ⟨-, -, -, rfl⟩ := addInstance_eq_ok hadd
      exact h.of_instances (fun _ hrow => List.mem_append_left _ hrow) rfl
  | submitted | unlocked => exact h.modifyInstance _ fun _ => ⟨rfl, rfl, rfl, rfl⟩
  | deleted hfound _ _ =>
      obtain ⟨⟨row, hrow, hid, hrest⟩, htemplate⟩ := h
      have hother : row.id ≠ _ := fun hsame =>
        hdelete (hid.symm.trans hsame ▸ (names_of_named hfound).1)
      exact ⟨⟨row, List.mem_filter.mpr ⟨hrow, decide_eq_true hother⟩, hid, hrest⟩, htemplate⟩
  | first _ hadd | lateFirst _ hadd =>
      obtain ⟨-, -, rfl⟩ := addAnswer_eq_ok hadd
      exact h.of_instances (fun _ hrow => hrow) rfl
  | again _ hwrite | lateAgain _ _ hwrite =>
      rw [writeAnswer?_eq_map hwrite]
      exact h.of_instances (fun _ hrow => hrow) rfl

end Tables

namespace Service

variable {s : Service} {event : Event} {events : List Event} {source : Template} {i j : Int}
  {link : String}

/-- A deletion after which the instance is still there did nothing. -/
theorem deleteInstance_keeps {key : Json} (hnames : Database.Names key i)
    (hlives : (((deleteInstance key).run s).2.tables.instance? i).isSome = true) :
    ((deleteInstance key).run s).2 = s := by
  rw [run_deleteInstance] at hlives ⊢
  cases hfound : s.tables.found key with
  | error failure => rfl
  | ok row =>
      rw [hfound] at hlives
      dsimp only at hlives ⊢
      by_cases hkept : (row.isLocked || row.submittedAt.isSome) = true
      · rw [if_pos hkept]
      · rw [if_neg hkept] at hlives
        have hnamed := Tables.found_eq_ok.mp hfound
        rw [Tables.named_of_names hnames] at hnamed
        obtain ⟨-, hid⟩ := Tables.mem_of_instance? (Except.ok.inj hnamed)
        obtain ⟨left, hleft⟩ := Option.isSome_iff_exists.mp hlives
        obtain ⟨hmem, hleftId⟩ := Tables.mem_of_instance? hleft
        have hother : left.id ≠ row.id := of_decide_eq_true (List.mem_filter.mp hmem).2
        exact absurd (hleftId.trans hid.symm) hother

/-- An event after which the instance is there has not deleted it. -/
theorem backs_step (h : Lasting (Tables.Backs i link j source) s)
    (hlives : ((s.step event).tables.instance? i).isSome = true) :
    Lasting (Tables.Backs i link j source) (s.step event) := by
  cases event with
  | call op =>
      by_cases hdelete : op.Deletes i
      · cases op with
        | deleteInstance key =>
            have hsame : s.step (.call (.deleteInstance key)) = s :=
              deleteInstance_keeps hdelete hlives
            rw [hsame]
            exact h
        | _ => cases hdelete
      · exact op.keeps (Tables.stable_backs hdelete) s h
  | finish => exact h.rollback
  | later now => exact h

/-- The instance with an id is there at every moment of a run. -/
def Lives (i : Int) (s : Service) (events : List Event) : Prop :=
  ∀ done, done <+: events → ((s.after done).tables.instance? i).isSome = true

theorem backs_after (h : Lasting (Tables.Backs i link j source) s) (hlives : Lives i s events) :
    Lasting (Tables.Backs i link j source) (s.after events) := by
  induction events generalizing s with
  | nil => exact h
  | cons event rest ih =>
      have hfirst : ((s.step event).tables.instance? i).isSome = true :=
        hlives [event] (List.prefix_append [event] rest)
      exact ih (backs_step h hfirst) fun done hdone =>
        hlives (event :: done) ((List.prefix_cons_inj event).mpr hdone)

/-- What respondents are handed shows this name, description and content. -/
structure Shows (payload : Json) (source : Template) : Prop where
  name : payload.getD "questionnaire_name" = .str source.name
  description : payload.getD "questionnaire_description" = .str (source.description.getD "")
  content : payload.getD "template_content" = .str source.content

theorem shows_handout {current : Template} (halike : current.Alike source) (t : Tables)
    (row : Instance) : Shows (t.handout row current) source := by
  obtain ⟨hname, hdescription, hcontent⟩ := halike
  rw [Tables.handout, hname, hdescription, hcontent]
  exact ⟨rfl, rfl, rfl⟩

/-- Under the link of an instance, what its template shows is handed out. -/
theorem handed_of_backs {t : Tables} (hsound : t.Sound) (h : t.Backs i link j source)
    (hfits : Database.fits i = true) {asked : Json}
    (hasked : Database.column asked = .ok (some link)) :
    ∃ payload, t.handed asked = .ok payload ∧ Shows payload source := by
  obtain ⟨⟨row, hrow, rfl, rfl, rfl, -⟩, current, hcurrent, halike⟩ := h
  have hchecked : Database.checked row.id = .ok row.id := Database.checked_eq_ok.mpr ⟨hfits, rfl⟩
  refine ⟨t.handout row current, ?_, shows_handout halike t row⟩
  simp only [Tables.handed, hsound.under_of_mem hrow hasked, hcurrent, hchecked]
  rfl

/-- **A sent template is frozen.**  Let an instance be created anywhere in a run from empty tables,
and let the run go on in any way in which the instance is there at every moment.  Then, in what
lasts and in what the session sees, its template is there with the name, the description and the
content that it had; and that is what a respondent is handed under the link, as long as the id of
the instance is one that a column can hold. -/
theorem sent_template_stays (now : Moment) (links : Nat → String) (drawn : Nat)
    (fillBase : Option String) (before later : List Event) (template admin name email : Json)
    (row : Instance) :
    let sending := (createInstance template admin name email).run
      ((blank now links drawn fillBase).after before)
    sending.1 = .ok row → Lives row.id sending.2 later →
      let s := sending.2.after later
      ∃ source, sending.2.tables.template? row.templateId = some source ∧
        (∀ t, t = s.database.committed ∨ t = s.database.working →
          ∃ current, t.template? row.templateId = some current ∧ current.Alike source) ∧
        (Database.fits row.id = true → ∀ link, Database.column link = .ok (some row.link) →
          ∃ payload, ((respondent link).run s).1 = .ok payload ∧ Shows payload source) := by
  intro sending hsent hlives s
  let start := (blank now links drawn fillBase).after before
  have hsound : Lasting Tables.Sound start :=
    (lasting_blank Tables.sound_empty now links drawn fillBase).after
      fun op _ => Tables.stable_sound op
  -- The instance is added for a template that is there, and the addition is committed.
  have hleads := leads_createInstance start.database template admin name email start rfl
  obtain ⟨new, t, hnew, hadd, hdone⟩ : ∃ new t, new.sentAt.isSome = true ∧
      start.tables.addInstance new = .ok (row, t) ∧ sending.2.database = ⟨t, t⟩ := by
    rw [show (createInstance template admin name email).run start = (.ok row, sending.2) from
      Prod.ext hsent rfl] at hleads
    cases hleads with
    | ok hadded => exact hadded
  have hsoundAdded : t.Sound := hsound.2.sent hadd
  obtain ⟨hthere, -, hrow, rfl⟩ := Tables.addInstance_eq_ok hadd
  obtain ⟨source, hsource⟩ : ∃ source, start.tables.template? row.templateId = some source := by
    rw [hrow]
    exact Option.isSome_iff_exists.mp hthere
  have hbacks : Lasting (Tables.Backs row.id row.link row.templateId source) sending.2 := by
    have hadded : row.sentAt.isSome = true := by rw [hrow]; exact hnew
    exact .of_eq hdone
      ⟨⟨row, List.mem_append_right _ (List.mem_singleton_self row), rfl, rfl, rfl, hadded⟩,
        source, hsource, rfl, rfl, rfl⟩
  have hsoundSent : Lasting Tables.Sound sending.2 := .of_eq hdone hsoundAdded
  have hstays := backs_after hbacks hlives
  have hsoundStays : Lasting Tables.Sound s := hsoundSent.after fun op _ => Tables.stable_sound op
  refine ⟨source, ?_, fun t ht => ?_, fun hfits asked hasked => ?_⟩
  · rw [tables, hdone]
    exact hsource
  · rcases ht with rfl | rfl
    · exact hstays.1.template
    · exact hstays.2.template
  · rw [run_respondent]
    exact handed_of_backs hsoundStays.2 hstays.2 hfits hasked

/-- A run in which an author writes a template. -/
def authoring : List Event :=
  [.call (.createAdmin (.str "a")),
    .call (.createTemplate (.str "t") (.obj [("items", .arr [])]) (.int 1) (.str "d"))]

/-- A run in which the author tries to change the template, and puts it away. -/
def rewriting : List Event :=
  [.call (.updateTemplate (.int 1) (.obj [("name", .str "other")])),
    .call (.deleteTemplate (.int 1)),
    .call (.setArchived (.int 1) true),
    .call (.submit (.str "k"))]

/-- The instance that the template was sent as. -/
def sentRow : Instance where
  id := 1
  templateId := 1
  link := "k"
  targetName := "n"
  targetEmail := "e"
  createdBy := 1
  createdAt := ⟨0⟩
  sentAt := some ⟨0⟩

theorem sent_template_stays_rewriting :
    let sending := (createInstance (.int 1) (.int 1) (.str "n") (.str "e")).run
      ((blank ⟨0⟩ (fun _ => "k") 0 none).after authoring)
    sending.1 = .ok sentRow ∧ Lives sentRow.id sending.2 rewriting ∧
      ∃ source, sending.2.tables.template? sentRow.templateId = some source ∧
        ∃ payload, ((respondent (.str "k")).run (sending.2.after rewriting)).1 = .ok payload ∧
          Shows payload source := by
  intro sending
  have hsent : sending.1 = .ok sentRow := eq_ok_of_toOption (by decide +kernel)
  have hlives : Lives sentRow.id sending.2 rewriting := by
    intro done hdone
    rw [← List.mem_inits] at hdone
    simp only [rewriting, List.inits, List.map_cons, List.map_nil, List.mem_cons,
      List.not_mem_nil, or_false] at hdone
    rcases hdone with rfl | rfl | rfl | rfl | rfl <;> decide +kernel
  obtain ⟨source, hsource, -, hhanded⟩ := sent_template_stays ⟨0⟩ (fun _ => "k") 0 none authoring
    rewriting (.int 1) (.int 1) (.str "n") (.str "e") sentRow hsent hlives
  exact ⟨hsent, hlives, source, hsource, hhanded (by decide) (.str "k") rfl⟩

end Service

end Questionnaire
