/-
What every operation keeps.

A property that each change of an operation keeps is kept by the operation, however it ends:
`Operation.keeps`.  It is a property of what lasts and of what the session sees alike, since
an operation that failed may leave changes pending that a later one commits.

The operations on instances and answers have no changes pending: each ends with at most one
change, which is committed, `Ends`.  The operations on templates make their changes one by one.
An edit is made only after the session saw that the template was sent to nobody, and none of
the edits in between sends it.
-/
import Questionnaire.Proofs.Service.Looking
import Questionnaire.Proofs.Service.Operation

namespace Questionnaire

namespace Service

open Attempt (Keeps Leads)

/-- A property of what lasts and of what the session sees. -/
def Lasting (I : Tables → Prop) (s : Service) : Prop :=
  I s.database.committed ∧ I s.database.working

variable {I : Tables → Prop} {op : Operation}

/-! ### Steps -/

theorem keeps_commit : Keeps (Lasting I) commit := fun _ hs => ⟨hs.2, hs.2⟩

theorem keeps_change (hI : Tables.Stable op I) {f : Tables → Tables}
    (hf : ∀ t, Tables.Step t op (f t)) : Keeps (Lasting I) (change f) :=
  fun _ hs => ⟨hs.1, hI _ _ hs.2 (hf _)⟩

/-- Where nothing is pending, what the session sees is what lasts. -/
theorem Lasting.of_settled {s : Service} (hs : s.Settled) (h : I s.tables) : Lasting I s :=
  ⟨hs ▸ h, h⟩

theorem Lasting.of_eq {s : Service} {t : Tables} (hs : s.database = ⟨t, t⟩) (h : I t) :
    Lasting I s := by
  rw [Lasting, hs]
  exact ⟨h, h⟩

theorem Lasting.rollback {s : Service} (h : Lasting I s) :
    Lasting I { s with database := s.database.rollback } :=
  ⟨h.1, h.1⟩

theorem Unwritten.lasting {s after : Service} (h : Unwritten s.database after)
    (hs : Lasting I s) : Lasting I after := by
  rcases h with hsame | hback
  · rw [Lasting, hsame]
    exact hs
  · rw [Lasting, hback]
    exact ⟨hs.1, hs.1⟩

theorem keeps_addAndCommit (hI : Tables.Stable op I) {α : Type}
    {f : Tables → Except Failure (α × Tables)}
    (hf : ∀ t row u, f t = .ok (row, u) → Tables.Step t op u) :
    Keeps (Lasting I) (addAndCommit f) := by
  refine Attempt.keeps_get_bind fun s hs => ?_
  cases hadd : f s.tables with
  | ok added =>
      have hstep := hI _ _ hs.2 (hf _ added.1 added.2 hadd)
      exact ⟨hstep, hstep⟩
  | error failure => exact ⟨hs.1, hs.1⟩

/-- The row is added to the tables that the session sees. -/
theorem leads_addForAndCommit_of_seen (hI : Tables.Stable op I) {J : Tables → Prop} {α : Type}
    (admin : Json) {f : Int → Tables → Except Failure (α × Tables)}
    (hf : ∀ id t row u, J t → f id t = .ok (row, u) → Tables.Step t op u) :
    Leads (fun s => Lasting I s ∧ J s.tables) (addForAndCommit admin f) (fun _ => Lasting I)
      (Lasting I) := by
  rintro s ⟨hs, hseen⟩
  have hadded := leads_addForAndCommit s.database admin f s rfl
  cases hrun : (addForAndCommit admin f).run s with
  | mk outcome after =>
      rw [hrun] at hadded
      cases hadded with
      | ok hadd =>
          obtain ⟨id, u, hadd, hdone⟩ := hadd
          exact .ok (.of_eq hdone (hI _ _ hs.2 (hf id _ _ u hseen hadd)))
      | error hkept => exact .error (hkept.lasting hs)

theorem keeps_addForAndCommit (hI : Tables.Stable op I) {α : Type} (admin : Json)
    {f : Int → Tables → Except Failure (α × Tables)}
    (hf : ∀ id t row u, f id t = .ok (row, u) → Tables.Step t op u) :
    Keeps (Lasting I) (addForAndCommit admin f) := by
  have hadd := leads_addForAndCommit_of_seen hI (J := fun _ => True) admin
    fun id t row u _ => hf id t row u
  exact Leads.keeps fun s hs => hadd s ⟨hs, trivial⟩

/-! ### Templates -/

theorem keeps_createTemplate (hI : Tables.Stable op I) (name content admin description : Json) :
    Keeps (Lasting I) (createTemplate name content admin description) := by
  unfold createTemplate
  refine (keeps_templateName name).bind fun name => ?_
  refine Attempt.keeps_lift_bind fun checked hchecked => ?_
  refine keeps_time.bind fun now => (Attempt.keeps_lift _).bind fun description => ?_
  have hstorable := Content.storable_of_check hchecked
  exact keeps_addForAndCommit hI admin fun _ _ _ _ hadd => .template hadd (Or.inl hstorable)

theorem keeps_deleteTemplate (hI : Tables.Stable op I) (id : Json) :
    Keeps (Lasting I) (deleteTemplate id) := by
  unfold deleteTemplate
  refine (keeps_findTemplate id).bind fun row s hs => ?_
  rw [Attempt.run_bind, run_read, Attempt.andThen_ok]
  split
  case isTrue => exact hs
  case isFalse hnone =>
    have hempty : s.database.working.instancesOf row.id = [] := by
      rw [Bool.not_eq_true, Bool.not_eq_false', List.isEmpty_iff] at hnone
      exact hnone
    have hstep := hI _ _ hs.2 (.withoutTemplate row.id hempty)
    exact ⟨hstep, hstep⟩

theorem keeps_duplicateTemplate (hI : Tables.Stable op I) (id admin : Json) :
    Keeps (Lasting I) (duplicateTemplate id admin) := by
  unfold duplicateTemplate
  refine Leads.keeps ((leads_findTemplate id fun _ hs => hs).bind fun source => ?_)
  refine keeps_time.leads_bind (fun _ hs => hs.1) fun now => ?_
  refine leads_addForAndCommit_of_seen hI
    (J := fun t => source ∈ t.templates ∧ Database.Names id source.id) admin ?_
  intro createdBy t row u hseen hadd
  exact .template hadd (Or.inr ⟨source, hseen.1, rfl⟩)

theorem keeps_setArchived (hI : Tables.Stable op I) (id : Json) (archived : Bool) :
    Keeps (Lasting I) (setArchived id archived) := by
  unfold setArchived
  refine (keeps_findTemplate id).bind fun row => ?_
  have hrest : Keeps (Lasting I) (do commit; findTemplate (.int row.id)) :=
    keeps_commit.bind fun _ => keeps_findTemplate _
  split
  case isTrue =>
    refine keeps_time.bind fun now => ?_
    exact Keeps.bind (keeps_change hI fun _ => .archived row.id archived now) fun _ => hrest
  case isFalse => exact hrest

/-! ### Editing templates -/

/-- The property holds, and the session sees that a template was sent to nobody. -/
def Unsent (I : Tables → Prop) (id : Int) (s : Service) : Prop :=
  Lasting I s ∧ s.tables.isSent id = false

/-- An attempt on a template that was sent to nobody, which keeps the property. -/
abbrev Edits {α : Type} (I : Tables → Prop) (id : Int) (a : Attempt Service α) : Prop :=
  Leads (Unsent I id) a (fun _ => Lasting I) (Lasting I)

variable {id : Int}

theorem Unsent.lasting {s : Service} (h : Unsent I id s) : Lasting I s := h.1

theorem keeps_setTemplate (hI : Tables.Stable op I) (id : Int) {f : Template → Template}
    (hf : ∀ row, (f row).id = row.id)
    (hcontent : ∀ row, (f row).content = row.content ∨ Content.Storable (f row).content) :
    Keeps (Unsent I id) (setTemplate id f) :=
  fun _ hs => ⟨⟨hs.1.1, hI _ _ hs.1.2 (.edited id f hf hs.2 hcontent)⟩, hs.2⟩

/-- Edits follow one another. -/
theorem edits_bind {α β : Type} {a : Attempt Service α} {rest : α → Attempt Service β}
    (h : Keeps (Unsent I id) a) (hrest : ∀ x, Edits I id (rest x)) : Edits I id (a >>= rest) :=
  h.leads_bind (fun _ => Unsent.lasting) hrest

theorem edits_rename (hI : Tables.Stable op I) (name : Json) {rest : Attempt Service Template}
    (hrest : Edits I id rest) :
    Edits I id (do
      let name ← templateName name
      setTemplate id ({ · with name })
      rest) :=
  edits_bind (keeps_templateName name) fun _ =>
    edits_bind (keeps_setTemplate hI id (fun _ => rfl) fun _ => Or.inl rfl) fun _ => hrest

theorem edits_rewrite (hI : Tables.Stable op I) (content : Json) {rest : Attempt Service Template}
    (hrest : Edits I id rest) :
    Edits I id (do
      let checked ← Attempt.lift (Content.check content)
      setTemplate id ({ · with content := checked.1 })
      rest) := by
  refine Attempt.leads_lift_bind (fun _ => Unsent.lasting) fun checked hchecked => ?_
  have hstorable := Content.storable_of_check hchecked
  exact edits_bind (keeps_setTemplate hI id (fun _ => rfl) fun _ => Or.inr hstorable)
    fun _ => hrest

theorem edits_describe (hI : Tables.Stable op I) (description : Option String)
    {rest : Attempt Service Template} (hrest : Edits I id rest) :
    Edits I id (do
      setTemplate id ({ · with description })
      rest) :=
  edits_bind (keeps_setTemplate hI id (fun _ => rfl) fun _ => Or.inl rfl) fun _ => hrest

/-- What is given up takes back what was pending. -/
theorem edits_giveUp (failure : Failure) (rest : Attempt Service Template) :
    Edits I id (do
      rollback
      (throw failure : Attempt Service PUnit)
      rest) := fun _ hs => .error hs.1.rollback

/-- What was edited is committed and shown. -/
theorem edits_commit (id : Int) : Edits I id (do commit; findTemplate (.int id)) := by
  have hend : Keeps (Lasting I) (do commit; findTemplate (.int id)) :=
    keeps_commit.bind fun _ => keeps_findTemplate _
  exact fun s hs => hend.leads (fun _ h => h) s hs.1

theorem edits_done (hI : Tables.Stable op I) (id : Int) :
    Edits I id (do
      let now ← time
      setTemplate id ({ · with updatedAt := now })
      commit
      findTemplate (.int id)) := by
  refine edits_bind keeps_time fun now => ?_
  refine edits_bind (keeps_setTemplate hI id (fun _ => rfl) fun _ => Or.inl rfl) fun _ => ?_
  exact edits_commit id

theorem keeps_updateTemplate (hI : Tables.Stable op I) (id data : Json) :
    Keeps (Lasting I) (updateTemplate id data) := by
  unfold updateTemplate
  refine ((leads_unsentTemplate id fun _ hs => hs).bind fun row => ?_).keeps
  refine edits_bind (Attempt.keeps_lift _) fun data => ?_
  dsimp only
  generalize (data.get? "description").map (fun v => Database.column (v.orElse (.str ""))) =
    description
  have hdone := edits_done hI row.id
  -- Each part of the changes is there or not; what is there is put in front of the rest.
  rcases description with _ | failure | description <;> cases data.get? "name" <;>
    cases data.get? "content"
  case none.none.none => exact hdone
  case none.none.some content => exact edits_rewrite hI content hdone
  case none.some.none name => exact edits_rename hI name hdone
  case none.some.some name content => exact edits_rename hI name (edits_rewrite hI content hdone)
  case some.error.none.none => exact edits_giveUp failure _
  case some.error.none.some content => exact edits_rewrite hI content (edits_giveUp failure _)
  case some.error.some.none name => exact edits_rename hI name (edits_giveUp failure _)
  case some.error.some.some name content =>
    exact edits_rename hI name (edits_rewrite hI content (edits_giveUp failure _))
  case some.ok.none.none => exact edits_describe hI description hdone
  case some.ok.none.some content =>
    exact edits_describe hI description (edits_rewrite hI content hdone)
  case some.ok.some.none name => exact edits_rename hI name (edits_describe hI description hdone)
  case some.ok.some.some name content =>
    exact edits_rename hI name (edits_describe hI description (edits_rewrite hI content hdone))

theorem edits_saveTemplate (hI : Tables.Stable op I) (id : Int) (editor : Editor) :
    Edits I id (saveTemplate id editor) := by
  unfold saveTemplate
  refine Attempt.leads_lift_bind (fun _ => Unsent.lasting) fun checked hchecked => ?_
  refine edits_bind keeps_time fun now => ?_
  have hstorable := Content.storable_of_check hchecked
  refine edits_bind (keeps_setTemplate hI id (fun _ => rfl) fun _ => Or.inr hstorable) fun _ => ?_
  exact edits_commit id

theorem keeps_addItem (hI : Tables.Stable op I) (id : Json) (new : NewItem) :
    Keeps (Lasting I) (addItem id new) := by
  unfold addItem
  refine Leads.keeps ((leads_openTemplate id fun _ hs => hs).bind fun ⟨row, editor⟩ => ?_)
  show Edits I row.id _
  refine edits_bind (Attempt.keeps_lift _) fun handle => ?_
  refine (edits_saveTemplate hI _ _).bind fun row => ?_
  refine (Attempt.keeps_lift _).leads_bind (fun _ hs => hs) fun item => ?_
  exact Attempt.leads_pure fun _ hs => hs

theorem keeps_removeItem (hI : Tables.Stable op I) (id item : Json) :
    Keeps (Lasting I) (removeItem id item) := by
  unfold removeItem
  refine Leads.keeps ((leads_openTemplate id fun _ hs => hs).bind fun ⟨row, editor⟩ => ?_)
  show Edits I row.id _
  refine edits_bind (Attempt.keeps_lift _) fun handle => ?_
  exact edits_bind (Attempt.keeps_lift _) fun _ => edits_saveTemplate hI _ _

/-! ### Instances and answers -/

/-- An operation ends as it began, or with what was pending forgotten, or with one change that is
committed: a change of what the session sees, or of what lasts if what was pending was forgotten
before. -/
def Ends (op : Operation) (s after : Service) : Prop :=
  Unwritten s.database after ∨
    ∃ t u, (t = s.database.working ∨ t = s.database.committed) ∧ Tables.Step t op u ∧
      after.database = ⟨u, u⟩

theorem Ends.changed {s after : Service} {t : Tables} (hstep : Tables.Step s.tables op t)
    (hdone : after.database = ⟨t, t⟩) : Ends op s after :=
  Or.inr ⟨s.tables, t, Or.inl rfl, hstep, hdone⟩

/-- What follows a rollback is a way for the operation to end. -/
theorem Ends.of_rollback {s after : Service}
    (h : Ends op { s with database := s.database.rollback } after) : Ends op s after := by
  rcases h with (hsame | hback) | ⟨t, u, htables, hstep, hdone⟩
  · exact Or.inl (Or.inr hsame)
  · exact Or.inl (Or.inr hback)
  · exact Or.inr ⟨t, u, Or.inr (or_self_iff.mp htables), hstep, hdone⟩

theorem Ends.lasting {s after : Service} (h : Ends op s after) (hI : Tables.Stable op I)
    (hs : Lasting I s) : Lasting I after := by
  rcases h with hunwritten | ⟨t, u, htables, hstep, hdone⟩
  · exact hunwritten.lasting hs
  · have ht : I t := by
      rcases htables with rfl | rfl
      · exact hs.2
      · exact hs.1
    exact .of_eq hdone (hI _ _ ht hstep)

theorem ends_createInstance (template admin name email : Json) (s : Service) :
    Ends (.createInstance template admin name email) s
      ((createInstance template admin name email).run s).2 := by
  have hleads := leads_createInstance_opened s.database template admin name email s rfl
  cases hrun : (createInstance template admin name email).run s with
  | mk outcome after =>
      rw [hrun] at hleads
      cases hleads with
      | error hsame => exact Or.inl hsame
      | ok hadded =>
          obtain ⟨new, t, ⟨hsent, hopened, hunsubmitted⟩, hadd, hdone⟩ := hadded
          exact .changed (.sent hsent hadd hopened hunsubmitted) hdone

theorem ends_unlock (id : Json) (s : Service) : Ends (.unlock id) s ((unlock id).run s).2 := by
  rw [run_unlock]
  cases hfound : s.tables.found id with
  | error failure => exact Or.inl (Or.inl rfl)
  | ok row => exact .changed (.unlocked (Tables.found_eq_ok.mp hfound)) rfl

theorem ends_deleteInstance (id : Json) (s : Service) :
    Ends (.deleteInstance id) s ((deleteInstance id).run s).2 := by
  rw [run_deleteInstance]
  cases hfound : s.tables.found id with
  | error failure => exact Or.inl (Or.inl rfl)
  | ok row =>
      by_cases hkept : (row.isLocked || row.submittedAt.isSome) = true
      · simp only [if_pos hkept]
        exact Or.inl (Or.inl rfl)
      · simp only [if_neg hkept]
        rw [Bool.or_eq_true, not_or, Bool.not_eq_true, Bool.not_eq_true, Option.isSome_eq_false_iff,
          Option.isNone_iff_eq_none] at hkept
        exact .changed (.deleted (Tables.found_eq_ok.mp hfound) hkept.1 hkept.2) rfl

theorem ends_submit (link : Json) (s : Service) :
    Ends (.submit link) s ((submit link).run s).2 := by
  rw [run_submit]
  cases hfound : s.tables.under link with
  | error failure => exact Or.inl (Or.inl rfl)
  | ok found =>
  cases found with
  | none => exact Or.inl (Or.inr rfl)
  | some row =>
      by_cases hlocked : row.isLocked = true
      · simp only [if_pos hlocked]
        exact Or.inl (Or.inr rfl)
      · simp only [if_neg hlocked]
        exact .changed (.submitted hfound (Bool.not_eq_true _ ▸ hlocked) s.now) rfl

theorem ends_save (link id value version : Json) (s : Service) :
    Ends (.write (.save link id value version)) s ((save link id value version).run s).2 := by
  unfold save
  obtain ⟨row, q, n, hin⟩ | ⟨-, hsame | hback, -⟩ :=
    admitted_or_turnsBack .none link id value version s
  · rw [run_saveAmong_of_admitted _ hin, run_place]
    cases hwrite : s.tables.writeAnswer? row.id q value.text? n s.now with
    | some t => exact .changed (.again hin hwrite) rfl
    | none =>
    cases hmissing : s.tables.answer? row.id q with
    | some a => exact Or.inl (Or.inr rfl)
    | none =>
        -- Nobody interferes, so the answer is inserted.
        have hadd : (Interference.none.beforeInsert s.tables).addAnswer
            (firstAnswer row.id q value.text? s.now) = .ok (_, _) :=
          Tables.addAnswer_of_new (Tables.mem_of_under hin.found) rfl hmissing
        rw [run_insert, hadd]
        exact .changed (.first hin hadd) rfl
  · rw [hsame]
    exact Or.inl (Or.inl rfl)
  · rw [hback]
    exact Or.inl (Or.inr rfl)

theorem ends_retry {w : Write} (hlate : w.isLate = true) (link : Json) (q : String)
    (value : Option String) {n : Int} (hfits : Database.fits n = true) (now : Moment)
    (s : Service) :
    Ends (.write w) s ((retry link q value n now).run s).2 := by
  rw [run_retry]
  cases s.tables.under link with
  | error failure => exact Or.inl (Or.inl rfl)
  | ok found =>
  cases found with
  | none => exact Or.inl (Or.inr rfl)
  | some row =>
      dsimp only
      cases hwrite : s.tables.writeAnswer? row.id q value n now with
      | none => exact Or.inl (Or.inr rfl)
      | some t => exact .changed (.lateAgain hlate hfits hwrite) rfl

theorem ends_insert {w : Write} (hlate : w.isLate = true) (link : Json) (i : Int) (q : String)
    (value : Option String) {n : Int} (hfits : Database.fits n = true) (now : Moment)
    (s : Service) :
    Ends (.write w) s ((insert .none link i q value n now).run s).2 := by
  rw [run_insert]
  cases hadd : (Interference.none.beforeInsert s.tables).addAnswer (firstAnswer i q value now) with
  | ok added => exact .changed (.lateFirst hlate hadd) rfl
  | error failure => exact .of_rollback (ends_retry hlate link q value hfits now _)

theorem ends_write (w : Write) (s : Service) : Ends (.write w) s (w.run.run s).2 := by
  cases w with
  | save link id value version => exact ends_save link id value version s
  | insert link i q value n now =>
      simp only [Write.run, Attempt.run_bind, Attempt.run_lift, Database.checked]
      by_cases hfits : Database.fits n = true
      · rw [if_pos hfits]
        exact ends_insert rfl link i q value hfits now s
      · rw [if_neg hfits]
        exact Or.inl (Or.inl rfl)
  | retry link q value n now =>
      simp only [Write.run, Attempt.run_bind, Attempt.run_lift, Database.checked]
      by_cases hfits : Database.fits n = true
      · rw [if_pos hfits]
        exact ends_retry rfl link q value hfits now s
      · rw [if_neg hfits]
        exact Or.inl (Or.inl rfl)

/-! ### Authors and samples -/

theorem keeps_createAdmin (hI : Tables.Stable op I) (name : Json) :
    Keeps (Lasting I) (createAdmin name) := by
  unfold createAdmin
  refine (Attempt.keeps_lift _).bind fun name => keeps_time.bind fun now => ?_
  refine keeps_addAndCommit hI fun t row u hadd => ?_
  cases name with
  | some name => exact .author hadd
  | none => cases hadd

theorem keeps_adminNamed (hI : Tables.Stable op I) (name : String) :
    Keeps (Lasting I) (adminNamed name) := by
  unfold adminNamed
  refine (keeps_read _).bind fun found => ?_
  split
  case h_1 row => exact Attempt.keeps_pure row
  case h_2 =>
    refine Attempt.keeps_get_bind fun s hs => ?_
    rw [Attempt.run_bind, Attempt.run_lift]
    cases hadd : s.tables.addAdmin name s.now with
    | error failure => exact hs
    | ok added =>
        have hstep : Tables.Step s.tables op added.2 := .author hadd
        exact ⟨hs.1, hI _ _ hs.2 hstep⟩

theorem keeps_logIn (hI : Tables.Stable op I) (name : String) :
    Keeps (Lasting I) (Api.logIn name) := by
  unfold Api.logIn
  refine (keeps_adminNamed hI name).bind fun admin => keeps_time.bind fun now => ?_
  refine Keeps.bind (keeps_change hI fun _ => .loggedIn admin.id _) fun _ => ?_
  exact keeps_commit.bind fun _ => Attempt.keeps_pure _

theorem keeps_addSamples (hI : Tables.Stable op I) (admin : Int) (samples : List Sample) :
    Keeps (Lasting I) (addSamples admin samples) := by
  induction samples with
  | nil => exact Attempt.keeps_pure 0
  | cons sample rest ih =>
      unfold addSamples
      refine (keeps_read _).bind fun templates => ?_
      split
      case isTrue => exact ih
      case isFalse =>
        refine Attempt.keeps_lift_bind fun checked hchecked => keeps_time.bind fun now => ?_
        refine Attempt.keeps_get_bind fun s hs => ?_
        split
        case h_1 row t hadd =>
          have hstorable := Content.storable_of_check hchecked
          have hadded : Lasting I { s with database := s.database.change fun _ => t } :=
            ⟨hs.1, hI _ _ hs.2 (.template hadd (Or.inl hstorable))⟩
          exact (ih.bind fun count => Attempt.keeps_pure (count + 1)) _ hadded
        case h_2 => exact hs.rollback

/-! ### All operations -/

theorem Ends.forget {α : Type} {a : Attempt Service α} {s : Service} (h : Ends op s (a.run s).2) :
    Ends op s ((do let _ ← a : Attempt Service Unit).run s).2 := by
  rw [Attempt.forget_state]
  exact h

/-- Whether an operation concerns instances or answers, and not only what authors write. -/
def Operation.isOnInstances : Operation → Bool
  | .createInstance .. | .unlock _ | .deleteInstance _ | .write _ | .submit _ => true
  | _ => false

/-- An operation on instances or answers leaves nothing of its own pending. -/
theorem Operation.ends (hop : op.isOnInstances = true) (s : Service) :
    Ends op s (op.run.run s).2 := by
  cases op with
  | createInstance template admin name email =>
      exact (ends_createInstance template admin name email s).forget
  | unlock id => exact (ends_unlock id s).forget
  | deleteInstance id => exact ends_deleteInstance id s
  | write w => exact (ends_write w s).forget
  | submit link => exact (ends_submit link s).forget
  | _ => cases hop

theorem keeps_forget {α : Type} {a : Attempt Service α} (h : Keeps (Lasting I) a) :
    Keeps (Lasting I) (do let _ ← a) := h.bind fun _ => Attempt.keeps_pure _

/-- **An operation keeps what each of its changes keeps.** -/
theorem Operation.keeps (hI : Tables.Stable op I) : Keeps (Lasting I) op.run := by
  cases op with
  | createAdmin name => exact keeps_forget (keeps_createAdmin hI name)
  | logIn name => exact keeps_forget (keeps_logIn hI name)
  | addSamples admin => exact keeps_forget (keeps_addSamples hI admin Sample.all)
  | seed =>
      refine keeps_forget ((keeps_adminNamed hI standIn).bind fun admin => ?_)
      refine (keeps_addSamples hI admin.id Sample.all).bind fun _ => ?_
      exact keeps_commit.bind fun _ => Attempt.keeps_pure ""
  | createTemplate name content admin description =>
      exact keeps_forget (keeps_createTemplate hI name content admin description)
  | updateTemplate id data => exact keeps_forget (keeps_updateTemplate hI id data)
  | deleteTemplate id => exact keeps_deleteTemplate hI id
  | duplicateTemplate id admin => exact keeps_forget (keeps_duplicateTemplate hI id admin)
  | setArchived id archived => exact keeps_forget (keeps_setArchived hI id archived)
  | addItem id new => exact keeps_forget (keeps_addItem hI id new)
  | removeItem id item => exact keeps_forget (keeps_removeItem hI id item)
  | createInstance | unlock | deleteInstance | write | submit =>
      exact fun s hs => (Operation.ends rfl s).lasting hI hs

end Service

end Questionnaire
