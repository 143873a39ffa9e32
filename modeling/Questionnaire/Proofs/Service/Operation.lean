/-
What the operations of the service do to the tables.

Whatever an operation is and however it ends, all that it does to the tables is a few
changes of a few kinds, `Tables.Step`.  The kinds that touch an instance or an answer belong
to one operation each, and say what that operation has seen before: a save has found the
instance open, an edited template was sent to nobody.  Content that comes in was checked, or was
in the table already.  What is left to do of a save that others overtook has seen nothing that
still has to hold.  A property that every change of an operation keeps is `Stable` under it.

Two properties are stable under all operations: that every answer was counted from one,
`WellVersioned`, and that instances are told apart by their ids and by their links and own all
answers there are, `Sound`.
-/
import Questionnaire.Proofs.Service.Instances
import Questionnaire.Proofs.Service.Stored
import Questionnaire.Service.Command
import Questionnaire.Api.Access

namespace Questionnaire

/-- A text that may be stored as content: it reads as a document without findings. -/
def Content.Storable (text : String) : Prop :=
  ∃ d, Document.load (.str text) = .ok d ∧ d.check = .ok []

theorem Content.storable_of_check {content : Json} {checked : String × Document}
    (h : check content = .ok checked) : Storable checked.1 := by
  unfold check at h
  cases htext : text content with
  | error failure =>
      rw [htext] at h
      cases h
  | ok text =>
  cases hload : Document.load (.str text) with
  | error failure =>
      rw [htext] at h
      simp only [bind, Except.bind, hload] at h
      cases h
  | ok d =>
  cases hcheck : d.check with
  | error failure =>
      rw [htext] at h
      simp only [bind, Except.bind, hload, hcheck] at h
      cases h
  | ok issues =>
      rw [htext] at h
      simp only [bind, Except.bind, hload, hcheck] at h
      cases issues with
      | nil =>
          cases h
          exact ⟨d, hload, hcheck⟩
      | cons issue rest => cases h

namespace Service

/-- A transaction that writes an answer: a save, or what is left to do of a save that others
overtook after it had looked, with what it read from its arguments and the time it began. -/
inductive Write
  | save (link id value version : Json)
  /-- The insertion of an answer that was not there when the save looked. -/
  | insert (link : Json) (instanceId : Int) (question : String) (value : Option String)
      (version : Int) (now : Moment)
  /-- The second try of a save whose insertion was refused. -/
  | retry (link : Json) (question : String) (value : Option String) (version : Int) (now : Moment)

namespace Write

/-- Carries out the transaction. -/
def run : Write → Attempt Service SaveOutcome
  | .save link id value version => Service.save link id value version
  | .insert link i q value version now => do
    let version ← Attempt.lift (Database.checked version)
    Service.insert .none link i q value version now
  | .retry link q value version now => do
    let version ← Attempt.lift (Database.checked version)
    Service.retry link q value version now

/-- Whether the save had looked before. -/
def isLate : Write → Bool
  | .save .. => false
  | .insert .. | .retry .. => true

end Write

/-- What the service is asked to do. -/
inductive Operation
  | createAdmin (name : Json)
  | logIn (name : String)
  /-- The samples are added, and left pending. -/
  | addSamples (admin : Int)
  | seed
  | createTemplate (name content admin description : Json)
  | updateTemplate (id data : Json)
  | deleteTemplate (id : Json)
  | duplicateTemplate (id admin : Json)
  | setArchived (id : Json) (archived : Bool)
  | addItem (id : Json) (new : NewItem)
  | removeItem (id item : Json)
  | createInstance (template admin name email : Json)
  | unlock (id : Json)
  | deleteInstance (id : Json)
  | write (w : Write)
  | submit (link : Json)

/-- Carries out an operation, and forgets what it gives. -/
def Operation.run : Operation → Attempt Service Unit
  | .createAdmin name => do let _ ← Service.createAdmin name
  | .logIn name => do let _ ← Api.logIn name
  | .addSamples admin => do let _ ← Service.seed admin
  | .seed => do let _ ← Command.run .seedSamples
  | .createTemplate name content admin description => do
    let _ ← Service.createTemplate name content admin description
  | .updateTemplate id data => do let _ ← Service.updateTemplate id data
  | .deleteTemplate id => Service.deleteTemplate id
  | .duplicateTemplate id admin => do let _ ← Service.duplicateTemplate id admin
  | .setArchived id archived => do let _ ← Service.setArchived id archived
  | .addItem id new => do let _ ← Service.addItem id new
  | .removeItem id item => do let _ ← Service.removeItem id item
  | .createInstance template admin name email => do
    let _ ← Service.createInstance template admin name email
  | .unlock id => do let _ ← Service.unlock id
  | .deleteInstance id => Service.deleteInstance id
  | .write w => do let _ ← w.run
  | .submit link => do let _ ← Service.submit link

end Service

open Service (Operation Write Admitted firstAnswer)

namespace Tables

variable {t u : Tables} {op : Operation}

/-! ### Changes -/

/-- A template that was put away or brought back. -/
def shelved (archived : Bool) (now : Moment) (row : Template) : Template :=
  { row with isArchived := archived, updatedAt := now }

/-- One change of the kinds that an operation of the service makes. -/
inductive Step (t : Tables) : Operation → Tables → Prop
  | author {op : Operation} {name : String} {now : Moment} {row : Admin} {u : Tables}
      (h : t.addAdmin name now = .ok (row, u)) : Step t op u
  | loggedIn {op : Operation} (id : Int) (f : Admin → Admin) : Step t op (t.modifyAdmin id f)
  | template {op : Operation} {new row : Template} {u : Tables}
      (h : t.addTemplate new = .ok (row, u))
      (hcontent : Content.Storable new.content ∨ ∃ source ∈ t.templates,
        new.content = source.content) : Step t op u
  /-- A template that nobody was sent is edited; it stays the same row. -/
  | edited {op : Operation} (id : Int) (f : Template → Template) (hf : ∀ row, (f row).id = row.id)
      (hunsent : t.isSent id = false)
      (hcontent : ∀ row, (f row).content = row.content ∨ Content.Storable (f row).content) :
      Step t op (t.modifyTemplate id f)
  | archived {op : Operation} (id : Int) (archived : Bool) (now : Moment) :
      Step t op (t.modifyTemplate id (shelved archived now))
  | withoutTemplate {op : Operation} (id : Int) (h : t.instancesOf id = []) :
      Step t op (t.dropTemplate id)
  | sent {template admin name email : Json} {new row : Instance} {u : Tables}
      (hsent : new.sentAt.isSome = true) (h : t.addInstance new = .ok (row, u))
      (hopened : new.isLocked = false) (hunsubmitted : new.submittedAt = none) :
      Step t (.createInstance template admin name email) u
  | submitted {link : Json} {row : Instance} (hfound : t.under link = .ok (some row))
      (hopened : row.isLocked = false) (now : Moment) :
      Step t (.submit link) (t.modifyInstance row.id (submittedAs now))
  | unlocked {id : Json} {row : Instance} (hfound : t.named id = .ok (some row)) :
      Step t (.unlock id) (t.modifyInstance row.id reopened)
  | deleted {id : Json} {row : Instance} (hfound : t.named id = .ok (some row))
      (hopened : row.isLocked = false) (hunsubmitted : row.submittedAt = none) :
      Step t (.deleteInstance id) (t.dropInstance row.id)
  | first {link id value version : Json} {row : Instance} {q : String} {n : Int} {now : Moment}
      {a : StoredAnswer} {u : Tables} (hin : Admitted t link id version row q n)
      (h : t.addAnswer (firstAnswer row.id q value.text? now) = .ok (a, u)) :
      Step t (.write (.save link id value version)) u
  | again {link id value version : Json} {row : Instance} {q : String} {n : Int} {now : Moment}
      {u : Tables} (hin : Admitted t link id version row q n)
      (h : t.writeAnswer? row.id q value.text? n now = some u) :
      Step t (.write (.save link id value version)) u
  | lateFirst {w : Write} {i : Int} {q : String} {value : Option String} {now : Moment}
      {a : StoredAnswer} {u : Tables} (hlate : w.isLate = true)
      (h : t.addAnswer (firstAnswer i q value now) = .ok (a, u)) : Step t (.write w) u
  | lateAgain {w : Write} {i : Int} {q : String} {value : Option String} {n : Int} {now : Moment}
      {u : Tables} (hlate : w.isLate = true) (hfits : Database.fits n = true)
      (h : t.writeAnswer? i q value n now = some u) : Step t (.write w) u

/-- A property of tables that every change of an operation keeps. -/
def Stable (op : Operation) (I : Tables → Prop) : Prop := ∀ t u, I t → Step t op u → I u

/-! ### What is added -/

theorem addAdmin_eq_ok {name : String} {now : Moment} {row : Admin}
    (h : t.addAdmin name now = .ok (row, u)) : u = { t with admins := t.admins ++ [row] } := by
  unfold addAdmin at h
  split at h
  case isTrue => cases h
  case isFalse =>
    cases h
    rfl

theorem addTemplate_eq_ok {new row : Template} (h : t.addTemplate new = .ok (row, u)) :
    u = { t with templates := t.templates ++ [row] } := by
  unfold addTemplate at h
  split at h
  case isTrue => cases h
  case isFalse =>
    cases h
    rfl

theorem content_of_addTemplate {new row : Template} (h : t.addTemplate new = .ok (row, u)) :
    row.content = new.content := by
  unfold addTemplate at h
  split at h
  case isTrue => cases h
  case isFalse =>
    cases h
    rfl

/-- An instance is added for a template that is there, under a link that nothing has. -/
theorem addInstance_eq_ok {new row : Instance} (h : t.addInstance new = .ok (row, u)) :
    (t.template? new.templateId).isSome = true ∧ t.instanceAt? new.link = none ∧
      row = { new with id := nextId (t.instances.map (·.id)) } ∧
      u = { t with instances := t.instances ++ [row] } := by
  unfold addInstance at h
  split at h
  case isTrue => cases h
  case isFalse hadmitted =>
    cases h
    simp only [Bool.or_eq_true, not_or, Bool.not_eq_true, Option.isSome_eq_false_iff,
      Option.isNone_iff_eq_none] at hadmitted
    exact ⟨Option.isSome_iff_ne_none.mpr hadmitted.1.2, hadmitted.2, rfl, rfl⟩

/-- An answer is added to an instance that is there. -/
theorem owner_of_addAnswer {new a : StoredAnswer} (h : t.addAnswer new = .ok (a, u)) :
    ∃ row ∈ t.instances, row.id = new.instanceId := by
  unfold addAnswer at h
  split at h
  case isTrue => cases h
  case isFalse hadmitted =>
    rw [Bool.or_eq_true, not_or, Bool.not_eq_true, Option.isNone_eq_false_iff] at hadmitted
    obtain ⟨row, hrow⟩ := Option.isSome_iff_exists.mp hadmitted.1
    have hid := List.find?_some hrow
    exact ⟨row, List.mem_of_find?_eq_some hrow, of_decide_eq_true hid⟩

/-- A write changes no answer but in its value, its version and its time. -/
theorem writeAnswer?_eq_map {i : Int} {q : String} {value : Option String} {n : Int} {now : Moment}
    (h : t.writeAnswer? i q value n now = some u) :
    u = { t with answers := t.answers.map fun a =>
      if isAnswerTo i q a && a.version.atMost n then renewed value now a else a } := by
  unfold writeAnswer? at h
  rw [Option.ite_none_right_eq_some] at h
  exact (Option.some.inj h.2).symm

/-! ### Counted versions -/

theorem WellVersioned.of_answers (h : t.WellVersioned) (hu : u.answers = t.answers) :
    u.WellVersioned := by
  obtain ⟨once, counted⟩ := h
  exact ⟨by rwa [hu], by rwa [hu]⟩

theorem WellVersioned.dropInstance (h : t.WellVersioned) (id : Int) :
    (t.dropInstance id).WellVersioned where
  once := (List.filter_sublist.map answerKey).nodup h.once
  counted a ha := h.counted a (List.mem_of_mem_filter ha)

theorem stable_wellVersioned (op : Operation) : Stable op WellVersioned := by
  intro t u h hstep
  cases hstep with
  | author hadd =>
      rw [addAdmin_eq_ok hadd]
      exact h.of_answers rfl
  | template hadd =>
      rw [addTemplate_eq_ok hadd]
      exact h.of_answers rfl
  | sent _ hadd =>
      rw [(addInstance_eq_ok hadd).2.2.2]
      exact h.of_answers rfl
  | first _ hadd | lateFirst _ hadd =>
      obtain ⟨hnew, hrow, rfl⟩ := addAnswer_eq_ok hadd
      exact h.append hnew (by rw [hrow]; rfl) (by rw [hrow]; exact .first)
  | again _ hwrite | lateAgain _ _ hwrite =>
      rw [writeAnswer?_eq h] at hwrite
      obtain ⟨a, -, hwrite⟩ := Option.bind_eq_some_iff.mp hwrite
      rw [Option.ite_none_right_eq_some] at hwrite
      obtain ⟨-, hrenew⟩ := hwrite
      cases hrenew
      exact h.renew _ _
  | loggedIn | edited | archived | withoutTemplate | submitted | unlocked => exact h.of_answers rfl
  | deleted => exact h.dropInstance _

/-! ### Instances and what they own -/

/-- Instances are told apart by their ids and by their links, and every answer belongs to
one. -/
structure Sound (t : Tables) : Prop where
  ids : (t.instances.map (·.id)).Nodup
  links : (t.instances.map (·.link)).Nodup
  owned : ∀ a ∈ t.answers, ∃ row ∈ t.instances, row.id = a.instanceId

theorem sound_empty : Sound {} := ⟨List.nodup_nil, List.nodup_nil, by simp⟩

theorem le_foldl_max (ids : List Int) (start : Int) :
    start ≤ ids.foldl max start ∧ ∀ id ∈ ids, id ≤ ids.foldl max start := by
  induction ids generalizing start with
  | nil => exact ⟨Int.le_refl _, by simp⟩
  | cons id ids ih =>
      obtain ⟨hstart, hids⟩ := ih (max start id)
      rw [List.foldl_cons, List.forall_mem_cons]
      exact ⟨by omega, by omega, hids⟩

/-- The id of a new row is not taken. -/
theorem nextId_notMem (ids : List Int) : nextId ids ∉ ids := by
  intro hmem
  have hle := (le_foldl_max ids 0).2 _ hmem
  unfold nextId at hle
  omega

theorem Sound.of_rows (h : t.Sound) (hinstances : u.instances = t.instances)
    (hanswers : u.answers = t.answers) : u.Sound := by
  obtain ⟨ids, links, owned⟩ := h
  exact ⟨by rwa [hinstances], by rwa [hinstances], by rwa [hinstances, hanswers]⟩

/-- A change of an instance that leaves its id and its link. -/
theorem Sound.modifyInstance (h : t.Sound) {f : Instance → Instance} (i : Int)
    (hid : ∀ row, (f row).id = row.id) (hlink : ∀ row, (f row).link = row.link) :
    (t.modifyInstance i f).Sound := by
  have hids : (t.modifyInstance i f).instances.map (·.id) = t.instances.map (·.id) := by
    simp only [Tables.modifyInstance, List.map_map]
    refine List.map_congr_left fun row _ => ?_
    simp only [Function.comp_apply]
    split
    · exact hid row
    · rfl
  have hlinks : (t.modifyInstance i f).instances.map (·.link) = t.instances.map (·.link) := by
    simp only [Tables.modifyInstance, List.map_map]
    refine List.map_congr_left fun row _ => ?_
    simp only [Function.comp_apply]
    split
    · exact hlink row
    · rfl
  refine ⟨by rw [hids]; exact h.ids, by rw [hlinks]; exact h.links, fun a ha => ?_⟩
  obtain ⟨row, hrow, howner⟩ := h.owned a ha
  refine ⟨_, List.mem_map.mpr ⟨row, hrow, rfl⟩, ?_⟩
  split
  · rw [hid, howner]
  · exact howner

theorem Sound.dropInstance (h : t.Sound) (i : Int) : (t.dropInstance i).Sound := by
  refine ⟨?_, ?_, fun a ha => ?_⟩
  · exact (List.filter_sublist.map _).nodup h.ids
  · exact (List.filter_sublist.map _).nodup h.links
  · obtain ⟨hmem, hother⟩ := List.mem_filter.mp ha
    obtain ⟨row, hrow, howner⟩ := h.owned a hmem
    exact ⟨row, List.mem_filter.mpr ⟨hrow, by rw [howner]; exact hother⟩, howner⟩

theorem Sound.sent (h : t.Sound) {new row : Instance} (hadd : t.addInstance new = .ok (row, u)) :
    u.Sound := by
  obtain ⟨-, hlink, hrow, rfl⟩ := addInstance_eq_ok hadd
  have hid : row.id ∉ t.instances.map (·.id) := by
    rw [hrow]
    exact nextId_notMem _
  have hfree : row.link ∉ t.instances.map (·.link) := by
    rintro hmem
    obtain ⟨other, hother, heq⟩ := List.mem_map.mp hmem
    rw [hrow] at heq
    have htaken := List.find?_eq_none.mp hlink other hother
    simp [heq] at htaken
  refine ⟨?_, ?_, fun a ha => ?_⟩
  · rw [List.map_append, List.map_singleton]
    exact List.nodup_append_comm.mp (List.nodup_cons.mpr ⟨hid, h.ids⟩)
  · rw [List.map_append, List.map_singleton]
    exact List.nodup_append_comm.mp (List.nodup_cons.mpr ⟨hfree, h.links⟩)
  · obtain ⟨owner, howner, hsame⟩ := h.owned a ha
    exact ⟨owner, List.mem_append_left _ howner, hsame⟩

theorem stable_sound (op : Operation) : Stable op Sound := by
  intro t u h hstep
  cases hstep with
  | author hadd =>
      rw [addAdmin_eq_ok hadd]
      exact h.of_rows rfl rfl
  | template hadd =>
      rw [addTemplate_eq_ok hadd]
      exact h.of_rows rfl rfl
  | sent _ hadd => exact h.sent hadd
  | first _ hadd | lateFirst _ hadd =>
      obtain ⟨row, hmem, howner⟩ := owner_of_addAnswer hadd
      obtain ⟨-, hrow, rfl⟩ := addAnswer_eq_ok hadd
      refine ⟨h.ids, h.links, fun a ha => ?_⟩
      rcases List.mem_append.mp ha with hold | hlast
      · exact h.owned a hold
      · rw [List.mem_singleton.mp hlast, hrow]
        exact ⟨row, hmem, howner⟩
  | again _ hwrite | lateAgain _ _ hwrite =>
      rw [writeAnswer?_eq_map hwrite]
      refine ⟨h.ids, h.links, fun a ha => ?_⟩
      obtain ⟨b, hb, rfl⟩ := List.mem_map.mp ha
      obtain ⟨row, hrow, howner⟩ := h.owned b hb
      refine ⟨row, hrow, ?_⟩
      split <;> exact howner
  | loggedIn | edited | archived | withoutTemplate => exact h.of_rows rfl rfl
  | submitted | unlocked => exact h.modifyInstance _ (fun _ => rfl) fun _ => rfl
  | deleted => exact h.dropInstance _

end Tables

end Questionnaire
