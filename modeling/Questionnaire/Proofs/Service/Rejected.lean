/-
What a rejected change of a template leaves.

A change is taken over part by part: the name, then the description, then the content, which alone
is checked as a whole.  So what lasts is never touched by a change that is rejected, and the end of
the request forgets the rest.  But where the content is refused, the new name and the new
description are in place already, `LeavesHeading`, and nothing takes them back within the session:
a later operation that commits makes them last.  Only a description that no column holds is
noticed at the end, and takes back all that was pending.  `updateEnds` says that there is no other
way for an update to end.
-/
import Questionnaire.Proofs.Service.Sent

namespace Questionnaire

namespace Tables

variable {t : Tables} {i : Int}

/-- A template with a new name and a new description, where there is one. -/
def headed (name : Option String) (description : Option (Option String)) (row : Template) :
    Template :=
  { row with name := name.getD row.name, description := description.getD row.description }

theorem headed_id (name : Option String) (description : Option (Option String)) (row : Template) :
    (headed name description row).id = row.id := rfl

theorem modifyTemplate_id (t : Tables) (i : Int) : t.modifyTemplate i id = t := by
  simp [modifyTemplate]

theorem modifyTemplate_modifyTemplate {f : Template → Template} (hf : ∀ row, (f row).id = row.id)
    (t : Tables) (i : Int) (g : Template → Template) :
    (t.modifyTemplate i f).modifyTemplate i g = t.modifyTemplate i fun row => g (f row) := by
  simp only [modifyTemplate, List.map_map, Tables.mk.injEq, true_and, and_true]
  refine List.map_congr_left fun row _ => ?_
  by_cases hrow : row.id = i
  · simp [hrow, hf]
  · simp [hrow]

end Tables

namespace Service

open Attempt (Keeps Leads)

variable {s : Service} {i : Int}

/-- The service with a template changed in this session. -/
def pending (s : Service) (i : Int) (f : Template → Template) : Service :=
  { s with database := s.database.change (·.modifyTemplate i f) }

@[simp] theorem run_setTemplate (i : Int) (f : Template → Template) (s : Service) :
    (setTemplate i f).run s = (.ok ⟨⟩, s.pending i f) := rfl

theorem pending_id (s : Service) (i : Int) : s.pending i id = s := by
  rw [pending, Database.change]
  simp only [Tables.modifyTemplate_id]

theorem pending_pending {f : Template → Template} (hf : ∀ row, (f row).id = row.id) (s : Service)
    (i : Int) (g : Template → Template) :
    (s.pending i f).pending i g = s.pending i fun row => g (f row) := by
  simp only [pending, Database.change, Tables.modifyTemplate_modifyTemplate hf]

/-! ### How an update ends -/

/-- What an update has found before it changes anything. -/
structure Begun (s : Service) (id data : Json) (row : Template) (members : Entries Json) :
    Prop where
  found : row ∈ s.tables.templates
  named : Database.Names id row.id
  unsent : s.tables.isSent row.id = false
  read : changesIn data = .ok members

/-- What a column holds for the new description among some changes. -/
def readDescription (members : Entries Json) : Option (Except Failure (Option String)) :=
  (members.get? "description").map fun v => Database.column (v.orElse (.str ""))

/-- The new description among some changes, if a column holds it. -/
def descriptionIn (members : Entries Json) : Option (Option String) :=
  (readDescription members).bind Except.toOption

/-- The content of an update is refused when its name and its description are in place. -/
structure LeavesHeading (s : Service) (id data : Json) (failure : Failure) (after : Service)
    (row : Template) (members : Entries Json) (name : Option String) : Prop where
  begun : Begun s id data row members
  refused : ∃ content, members.get? "content" = some content ∧
    Content.check content = .error failure
  renamed : name.isSome = (members.get? "name").isSome
  left : after = s.pending row.id (Tables.headed name (descriptionIn members))

/-- The ways in which an update ends. -/
inductive UpdateEnds (s : Service) (id data : Json) : Except Failure Template × Service → Prop
  | ok (row : Template) (after : Service) : UpdateEnds s id data (.ok row, after)
  | untouched (failure : Failure) : UpdateEnds s id data (.error failure, s)
  | forgotten (failure : Failure) :
      UpdateEnds s id data (.error failure, { s with database := s.database.rollback })
  | heading {row : Template} {members : Entries Json} {failure : Failure} {name : Option String}
      {after : Service} (h : LeavesHeading s id data failure after row members name) :
      UpdateEnds s id data (.error failure, after)

variable {id data : Json} {row : Template} {members : Entries Json}

theorem Begun.template? (h : Begun s id data row members) :
    ∃ source, s.tables.template? row.id = some source :=
  Option.isSome_iff_exists.mp
    (List.find?_isSome.mpr ⟨row, h.found, decide_eq_true rfl⟩)

theorem run_findTemplate_int {source : Template} (hfits : Database.fits i = true)
    (hsource : s.tables.template? i = some source) :
    (findTemplate (.int i)).run s = (.ok source, s) := by
  simp only [findTemplate, Database.single, Attempt.run_bind, Attempt.run_lift, Database.isPlain,
    Bool.not_true, Bool.false_eq_true, if_false, Database.id?_of_fits hfits, Attempt.run_get,
    Attempt.andThen_ok, Option.bind_some, hsource]
  rfl

/-- A state in which nothing but the template was changed. -/
def Edited (s : Service) (i : Int) (now : Service) : Prop :=
  ∃ f : Template → Template, (∀ row, (f row).id = row.id) ∧ now = s.pending i f

/-- A state in which nothing but the name and the description of the template was changed. -/
def Headed (s : Service) (i : Int) (name : Option String) (description : Option (Option String))
    (now : Service) : Prop := now = s.pending i (Tables.headed name description)

variable {now : Service} {name : Option String} {description : Option (Option String)}

theorem headed_refl (s : Service) (i : Int) : Headed s i none none s := (pending_id s i).symm

theorem Headed.edited (h : Headed s i name description now) : Edited s i now :=
  ⟨_, Tables.headed_id _ _, h⟩

/-- An update that is committed is shown: its template is still there. -/
theorem updateEnds_done (h : Begun s id data row members) (hnow : Edited s row.id now) :
    UpdateEnds s id data ((do
      let now ← time
      setTemplate row.id ({ · with updatedAt := now })
      commit
      findTemplate (.int row.id)).run now) := by
  obtain ⟨f, hf, rfl⟩ := hnow
  let dated (old : Template) : Template := { f old with updatedAt := s.now }
  let done : Service :=
    { s.pending row.id dated with database := (s.pending row.id dated).database.commit }
  obtain ⟨source, hsource⟩ := h.template?
  have hthere : done.tables.template? row.id =
      some (if source.id = row.id then dated source else source) := by
    show (s.tables.modifyTemplate row.id dated).template? row.id = _
    rw [Tables.template?_modifyTemplate (f := dated) hf, hsource]
    rfl
  simp only [Attempt.run_bind, run_time, run_setTemplate, run_commit, Attempt.andThen_ok,
    pending_pending hf]
  show UpdateEnds s id data ((findTemplate (.int row.id)).run done)
  rw [run_findTemplate_int h.named.fits hthere]
  exact .ok _ _

/-- What is given up takes back what was pending. -/
theorem updateEnds_giveUp (failure : Failure) (rest : Attempt Service Template)
    (hnow : Edited s i now) :
    UpdateEnds s id data ((do
      rollback
      (throw failure : Attempt Service PUnit)
      rest).run now) := by
  obtain ⟨f, -, rfl⟩ := hnow
  exact .forgotten failure

theorem updateEnds_rewrite (h : Begun s id data row members) {content : Json}
    (hcontent : members.get? "content" = some content)
    (hname : name.isSome = (members.get? "name").isSome)
    (hnow : Headed s row.id name (descriptionIn members) now) {rest : Attempt Service Template}
    (hrest : ∀ now, Edited s row.id now → UpdateEnds s id data (rest.run now)) :
    UpdateEnds s id data ((do
      let checked ← Attempt.lift (Content.check content)
      setTemplate row.id ({ · with content := checked.1 })
      rest).run now) := by
  obtain rfl := hnow
  rw [Attempt.run_bind, Attempt.run_lift]
  cases hcheck : Content.check content with
  | error failure => exact .heading ⟨h, ⟨content, hcontent, hcheck⟩, hname, rfl⟩
  | ok checked =>
      simp only [Attempt.andThen_ok, Attempt.run_bind, run_setTemplate]
      rw [pending_pending (Tables.headed_id _ _)]
      refine hrest _ ⟨_, ?_, rfl⟩
      exact fun _ => rfl

theorem updateEnds_rename (value : Json) {rest : Attempt Service Template}
    (hrest : ∀ name now, Headed s i (some name) none now → UpdateEnds s id data (rest.run now)) :
    UpdateEnds s id data ((do
      let name ← templateName value
      setTemplate i ({ · with name })
      rest).run s) := by
  rw [Attempt.run_bind]
  have hsame : ((templateName value).run s).2 = s := keeps_templateName (P := (· = s)) value s rfl
  cases hrun : (templateName value).run s with
  | mk outcome after =>
      rw [hrun] at hsame
      obtain rfl : after = s := hsame
      cases outcome with
      | error failure => exact .untouched failure
      | ok name => exact hrest name _ rfl

theorem updateEnds_describe (description : Option String) (hnow : Headed s i name none now)
    {rest : Attempt Service Template}
    (hrest : ∀ now, Headed s i name (some description) now → UpdateEnds s id data (rest.run now)) :
    UpdateEnds s id data ((do
      setTemplate i ({ · with description })
      rest).run now) := by
  obtain rfl := hnow
  rw [Attempt.run_bind, run_setTemplate, Attempt.andThen_ok]
  exact hrest _ (pending_pending (Tables.headed_id _ _) s i _)

/-- What follows the name and the description. -/
theorem updateEnds_rest (h : Begun s id data row members)
    (hname : name.isSome = (members.get? "name").isSome)
    (hnow : Headed s row.id name (descriptionIn members) now) :
    UpdateEnds s id data ((do
      if let some content := members.get? "content" then
        let (content, _) ← Attempt.lift (Content.check content)
        setTemplate row.id ({ · with content })
      if let some (.error failure) := readDescription members then
        rollback
        throw failure
      let now ← time
      setTemplate row.id ({ · with updatedAt := now })
      commit
      findTemplate (.int row.id)).run now) := by
  have hlast : ∀ now, Edited s row.id now → UpdateEnds s id data ((do
      if let some (.error failure) := readDescription members then
        rollback
        throw failure
      let now ← time
      setTemplate row.id ({ · with updatedAt := now })
      commit
      findTemplate (.int row.id)).run now) := by
    intro now hnow
    split
    case h_1 failure _ => exact updateEnds_giveUp failure _ hnow
    case h_2 => exact updateEnds_done h hnow
  cases hcontent : members.get? "content" with
  | none => exact hlast now hnow.edited
  | some content => exact updateEnds_rewrite h hcontent hname hnow hlast

/-- What follows the name. -/
theorem updateEnds_afterName (h : Begun s id data row members)
    (hname : name.isSome = (members.get? "name").isSome) (hnow : Headed s row.id name none now) :
    UpdateEnds s id data ((do
      if let some (.ok description) := readDescription members then
        setTemplate row.id ({ · with description })
      if let some content := members.get? "content" then
        let (content, _) ← Attempt.lift (Content.check content)
        setTemplate row.id ({ · with content })
      if let some (.error failure) := readDescription members then
        rollback
        throw failure
      let now ← time
      setTemplate row.id ({ · with updatedAt := now })
      commit
      findTemplate (.int row.id)).run now) := by
  have hrest := fun now => @updateEnds_rest _ _ _ _ _ now name h hname
  unfold descriptionIn at hrest
  rcases hread : readDescription members with _ | failure | description
  · rw [hread] at hrest
    exact hrest now hnow
  · rw [hread] at hrest
    exact hrest now hnow
  · rw [hread] at hrest
    exact updateEnds_describe description hnow hrest

/-- An update ends in one of these ways. -/
theorem updateEnds (id data : Json) (s : Service) :
    UpdateEnds s id data ((updateTemplate id data).run s) := by
  unfold updateTemplate
  rw [Attempt.run_bind]
  have hlook := leads_unsentTemplate_named (P := (· = s)) (R := (· = s)) id (fun _ hs => hs) s rfl
  cases hrun : (unsentTemplate id).run s with
  | mk outcome after =>
  rw [hrun] at hlook
  cases hlook with
  | error hsame =>
      obtain rfl : after = s := hsame
      exact .untouched _
  | @ok row _ hfound =>
  obtain ⟨⟨rfl, hmem, hnames⟩, hunsent⟩ := hfound
  rw [Attempt.andThen_ok, Attempt.run_bind, Attempt.run_lift]
  cases hread : changesIn data with
  | error failure => exact .untouched failure
  | ok members =>
  have h : Begun after id data row members := ⟨hmem, hnames, hunsent, hread⟩
  rw [Attempt.andThen_ok]
  cases hname : members.get? "name" with
  | none => exact updateEnds_afterName h (by rw [hname]; rfl) (headed_refl after row.id)
  | some value =>
      exact updateEnds_rename value fun name now hnow =>
        updateEnds_afterName h (by rw [hname]; rfl) hnow

/-! ### Rejected updates -/

/-- **What a rejected update leaves.**  It never touches what lasts, and the end of the request
forgets all of it.  Within the session it leaves everything as it was, or takes back all that was
pending; or else the content was refused, and then the new name and the new description, where
they came with it, are left in place, while the content and the time of the last change are as
before. -/
theorem rejected_update_leaves (id data : Json) (s : Service) {failure : Failure}
    (hrejected : ((updateTemplate id data).run s).1 = .error failure) :
    let after := ((updateTemplate id data).run s).2
    after.database.committed = s.database.committed ∧
      after.step .finish = s.step .finish ∧
      (after = s ∨ after = { s with database := s.database.rollback } ∨
        ∃ row members name, LeavesHeading s id data failure after row members name) := by
  have hends := updateEnds id data s
  cases hrun : (updateTemplate id data).run s with
  | mk outcome after =>
  rw [hrun] at hends hrejected
  obtain rfl : outcome = .error failure := hrejected
  cases hends with
  | untouched => exact ⟨rfl, rfl, Or.inl rfl⟩
  | forgotten => exact ⟨rfl, rfl, Or.inr (Or.inl rfl)⟩
  | heading h => exact ⟨by rw [h.left]; rfl, by rw [h.left]; rfl, Or.inr (Or.inr ⟨_, _, _, h⟩)⟩

/-- The changes that are rejected: the name is a name, and the content is no document. -/
def halfGood : Json := .obj [("name", .str "other"), ("content", .str "x")]

theorem rejected_update_leaves_name :
    let s := (blank ⟨0⟩ (fun _ => "k") 0 none).after authoring
    ∃ failure, ((updateTemplate (.int 1) halfGood).run s).1 = .error failure ∧
      ((updateTemplate (.int 1) halfGood).run s).2.database.committed = s.database.committed := by
  intro s
  cases hrun : ((updateTemplate (.int 1) halfGood).run s).1 with
  | ok row =>
      have hfails : ((updateTemplate (.int 1) halfGood).run s).1.toOption = none := by
        decide +kernel
      rw [hrun] at hfails
      cases hfails
  | error failure => exact ⟨failure, rfl, (rejected_update_leaves _ _ s hrun).1⟩

/-- An update that is rejected is not all or nothing: once another author is created in the same
session, the template is renamed for good. -/
theorem rejected_name_commits :
    let s := (blank ⟨0⟩ (fun _ => "k") 0 none).after authoring
    let rejected := (updateTemplate (.int 1) halfGood).run s
    let later := rejected.2.step (.call (.createAdmin (.str "b")))
    rejected.1.toOption = none ∧
      (s.database.committed.template? 1).map (·.name) = some "t" ∧
      (later.database.committed.template? 1).map (·.name) = some "other" := by
  decide +kernel

end Service

end Questionnaire
