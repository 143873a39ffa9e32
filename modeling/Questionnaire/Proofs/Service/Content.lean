/-
What becomes of content that is to be stored.

Content that reads as a document is taken, or refused with all findings.  There is one exception.
An item of a known type has a text as its id, whatever was written there; an item of an unknown
type keeps the value that it was read from, and that may carry an id that counts as given and is
no text.  Such an item is `Misnamed`, and a document that has one cannot be checked at all:
`judged_issues`.  Everything that checks content comes to the same three ends, `Decided`, and each
is met in its own case only.
-/
import Questionnaire.Proofs.Document.RoundTrip
import Questionnaire.Proofs.Document.Validation
import Questionnaire.Proofs.Service.Rejected

namespace Questionnaire

/-- An item of an unknown type whose id counts as given and is no text. -/
def Item.Misnamed : Item → Prop
  | .unknown _ source =>
    ∃ id, source.get? "id" = some id ∧ id.truthy = true ∧ ∀ text, id ≠ .str text
  | _ => False

/-- Some item of the document is misnamed. -/
def Document.Misnames (d : Document) : Prop := ∃ n ∈ d.outline, n.item.Misnamed

theorem Item.checkable_iff {item : Item} : item.Checkable ↔ ¬item.Misnamed := by
  cases item with
  | unknown type source =>
      unfold Checkable Misnamed
      cases hid : source.get? "id" with
      | none => simp [Item.id, hid]
      | some id => cases id <;> simp [Item.id, hid]
  | block | info | tip | spacer | line | box | check | yesNo | radio | radioGroup | checkGroup =>
      exact ⟨fun _ hfalse => hfalse, fun _ _ => ⟨_, rfl⟩⟩

theorem Document.checkable_iff {d : Document} :
    (∀ n ∈ d.outline, n.item.Checkable) ↔ ¬d.Misnames := by
  simp only [Misnames, Item.checkable_iff, not_exists, not_and]

namespace Validation

variable {d : Document}

/-- The only way for the check of an item to fail. -/
theorem eq_kind_of_checkItem {item : Item} {handle : Nat} {seen : Seen} {m : Misfit}
    (h : checkItem item handle seen = .error m) : m = .kind := by
  unfold checkItem at h
  dsimp only at h
  split at h
  · exact (Except.error.inj h).symm
  · cases h

theorem eq_kind_of_checkNodes {nodes : List Document.Node} {seen : Seen} {m : Misfit}
    (h : checkNodes seen nodes = .error m) : m = .kind := by
  induction nodes generalizing seen with
  | nil => cases h
  | cons n nodes ih =>
      rw [checkNodes] at h
      cases hcheck : checkItem n.item n.handle seen with
      | error m' =>
          rw [hcheck] at h
          cases h
          exact eq_kind_of_checkItem hcheck
      | ok result =>
          simp only [hcheck, bind, Except.bind] at h
          cases hrest : checkNodes result.2 nodes with
          | error m' =>
              rw [hrest] at h
              cases h
              exact ih hrest
          | ok more =>
              rw [hrest] at h
              cases h

/-- What the check of a document comes to. -/
inductive Judged (d : Document) : Except Misfit (List Issue) → Prop
  /-- Everything that is to be found is told. -/
  | told {issues : List Issue} (hclear : ¬d.Misnames) (hexact : Exact d issues) :
      Judged d (.ok issues)
  /-- Nothing is told. -/
  | broken (hmisnames : d.Misnames) : Judged d (.error .kind)

/-- A document is checked unless one of its items is misnamed. -/
theorem judged_issues (d : Document) : Judged d d.issues := by
  by_cases hmisnames : d.Misnames
  · cases hissues : d.issues with
    | error m => exact eq_kind_of_checkNodes hissues ▸ .broken hmisnames
    | ok issues =>
        exact absurd hmisnames (Document.checkable_iff.mp (checkable_of_issues hissues))
  · obtain ⟨issues, hissues, hexact⟩ := exact_issues (Document.checkable_iff.mpr hmisnames)
    rw [hissues]
    exact .told hmisnames hexact

end Validation

namespace Content

open Validation (Judged judged_issues)

variable {content : Json} {text : String} {d : Document}

theorem exists_text_of_read (h : read content = .ok d) :
    ∃ text, Content.text content = .ok text ∧ Document.load (.str text) = .ok d := by
  unfold read at h
  cases htext : Content.text content with
  | error failure =>
      rw [htext] at h
      cases h
  | ok text =>
      rw [htext] at h
      exact ⟨text, rfl, h⟩

/-- An object that can be written is read as it is. -/
theorem read_of_writable {members : Entries Json} (h : (Json.obj members).Writable) :
    read (.obj members) = Document.load (.obj members) := by
  have hparse : Json.parse (Json.obj members).render = .ok (.obj members) :=
    Json.parse_write (Document.blank_indentation none) h
  have hstrip := Document.Comment.strip_of_parse hparse
  have htext : Document.ofText (Json.obj members).render = Document.ofObject (.obj members) := by
    rw [Document.ofText, hstrip, String.ofList_toList, hparse]
    rfl
  simp only [read, text, bind, Except.bind, Document.load, Document.ofJson, htext]

theorem examine_of_read (h : read content = .ok d) :
    examine content = d.check.map fun issues => ⟨issues, d.answerableIds⟩ := by
  rw [examine, h]
  simp only [bind, Except.bind]
  cases d.check <;> rfl

/-- What checking content comes to, by the findings about its document. -/
theorem check_of_read (htext : Content.text content = .ok text)
    (hload : Document.load (.str text) = .ok d) :
    check content = d.check.bind fun issues =>
      if issues.isEmpty then .ok (text, d) else .error (.refused (.issues issues)) := by
  rw [check, htext]
  simp only [bind, Except.bind, hload]
  rfl

end Content

namespace Service

open Validation (Exact Sound judged_issues)

variable {s : Service} {d : Document}

/-- The ends of an operation that stores content, by what the check of its document finds: what it
gives and leaves if the content is taken, and the state that it leaves if it is not. -/
inductive Decided (d : Document) {α : Type} (taken : α × Service) (left : Service) :
    Except Failure α × Service → Prop
  | taken (hclear : ¬d.Misnames) (hsound : Sound d) : Decided d taken left (.ok taken.1, taken.2)
  | refused {issues : List Issue} (hclear : ¬d.Misnames) (hexact : Exact d issues)
      (hfound : issues ≠ []) : Decided d taken left (.error (.refused (.issues issues)), left)
  | broken (hmisnames : d.Misnames) : Decided d taken left (.error (.misfit .kind), left)

/-- An operation that goes on with the content if the check takes it, and stops if it does not, is
decided by the check. -/
theorem decided_of_check {α : Type} {content : Json} {text : String} {taken : α × Service}
    {left : Service} {reached : Except Failure α × Service}
    (htext : Content.text content = .ok text) (hload : Document.load (.str text) = .ok d)
    (htaken : Content.check content = .ok (text, d) → reached = (.ok taken.1, taken.2))
    (hleft : ∀ failure, Content.check content = .error failure → reached = (.error failure, left)) :
    Decided d taken left reached := by
  have hcheck := Content.check_of_read htext hload
  rw [Document.check] at hcheck
  have hjudged := judged_issues d
  cases hissues : d.issues with
  | error m =>
      rw [hissues] at hcheck hjudged
      rw [hleft _ hcheck]
      cases hjudged with
      | broken hmisnames => exact .broken hmisnames
  | ok issues =>
      rw [hissues] at hcheck hjudged
      cases hjudged with
      | told hclear hexact =>
          by_cases hnone : issues = []
          · obtain rfl := hnone
            rw [htaken hcheck]
            exact .taken hclear (hexact.eq_nil_iff.mp rfl)
          · have hrefused : Content.check content = .error (.refused (.issues issues)) := by
              rw [hcheck]
              simp [Except.mapError, Except.bind, hnone]
            rw [hleft _ hrefused]
            exact .refused hclear hexact hnone

/-! ### A new template -/

/-- What a new template needs besides its content, as it is read: a name, a description that a
column holds, and an author who is there. -/
structure Signed (s : Service) (name description admin : Json) (title : String)
    (held : Option String) (author : Int) : Prop where
  name : ((templateName name).run s).1 = .ok title
  description : Database.column (description.orElse (.str "")) = .ok held
  admin : Database.id? admin = .ok (some author)
  author : (s.tables.admin? author).isNone = false

/-- The row of a new template. -/
def newTemplate (s : Service) (title : String) (held : Option String) (author : Int)
    (text : String) : Template where
  id := Tables.nextId (s.tables.templates.map (·.id))
  name := title
  description := held
  content := text
  createdBy := author
  createdAt := s.now
  updatedAt := s.now

/-- The service with one more template, which is committed. -/
def withTemplate (s : Service) (row : Template) : Service :=
  s.withTables { s.tables with templates := s.tables.templates ++ [row] }

theorem run_templateName_of_fst {value : Json} {title : String}
    (h : ((templateName value).run s).1 = .ok title) :
    (templateName value).run s = (.ok title, s) :=
  Prod.ext h (keeps_templateName (P := (· = s)) value s rfl)

theorem run_createTemplate {name content admin description : Json} {title : String}
    {held : Option String} {author : Int} (h : Signed s name description admin title held author) :
    (createTemplate name content admin description).run s =
      match Content.check content with
      | .ok checked => (.ok (s.newTemplate title held author checked.1),
          s.withTemplate (s.newTemplate title held author checked.1))
      | .error failure => (.error failure, s) := by
  unfold createTemplate
  simp only [Attempt.run_bind, run_templateName_of_fst h.name, Attempt.andThen_ok, Attempt.run_lift]
  cases Content.check content with
  | error failure => rfl
  | ok checked =>
      have hadd : ∀ row : Template, row.createdBy = author →
          s.tables.addTemplate row =
            let new := { row with id := Tables.nextId (s.tables.templates.map (·.id)) }
            .ok (new, { s.tables with templates := s.tables.templates ++ [new] }) := by
        intro row hrow
        rw [Tables.addTemplate, hrow, h.author]
        rfl
      simp only [Attempt.andThen_ok, run_time, h.description, addForAndCommit, Attempt.run_bind,
        Attempt.run_lift, h.admin, addAndCommit, Attempt.run_get, hadd]
      rfl

/-! ### New content for a template -/

/-- What an update is asked besides new content, as it is read: it finds a template that nobody was
sent, and the new name and the new description, where they are given, are ones. -/
structure Rewrites (s : Service) (id : Json) (members : Entries Json) (row : Template)
    (content : Json) (name : Option String) (description : Option (Option String)) : Prop where
  source : s.tables.template? row.id = some row
  named : Database.Names id row.id
  unsent : s.tables.isSent row.id = false
  content : members.get? "content" = some content
  renamed : (members.get? "name").mapM (fun value => ((templateName value).run s).1) = .ok name
  described : (members.get? "description").mapM
    (fun value => Database.column (value.orElse (.str ""))) = .ok description

/-- A template with new content. -/
def rewritten (name : Option String) (description : Option (Option String)) (text : String)
    (now : Moment) (row : Template) : Template :=
  { Tables.headed name description row with content := text, updatedAt := now }

/-- The service with a template changed for good. -/
def lasting (s : Service) (i : Int) (f : Template → Template) : Service :=
  s.withTables (s.tables.modifyTemplate i f)

variable {id content : Json} {members : Entries Json} {row : Template} {name : Option String}
  {description : Option (Option String)}

theorem run_findTemplate (hnames : Database.Names id row.id)
    (hsource : s.tables.template? row.id = some row) :
    (findTemplate id).run s = (.ok row, s) := by
  obtain ⟨single, hsingle, hid⟩ := hnames
  have hplain : Database.isPlain single = true := by
    cases single with
    | arr | obj => cases hid
    | null | bool | int | float | str => rfl
  simp only [findTemplate, Attempt.run_bind, Attempt.run_lift, hsingle, Attempt.andThen_ok, hplain,
    Bool.not_true, Bool.false_eq_true, if_false, hid, Attempt.run_get, Option.bind_some, hsource]
  rfl

theorem run_unsentTemplate (hnames : Database.Names id row.id)
    (hsource : s.tables.template? row.id = some row) (hunsent : s.tables.isSent row.id = false) :
    (unsentTemplate id).run s = (.ok row, s) := by
  simp only [unsentTemplate, Attempt.run_bind, run_findTemplate hnames hsource,
    Attempt.andThen_ok, run_read, hunsent, Bool.false_eq_true, if_false]
  rfl

/-- A change of a template that is committed is shown. -/
theorem run_commit_findTemplate {f : Template → Template} (hf : ∀ row, (f row).id = row.id)
    (hfits : Database.fits row.id = true) (hsource : s.tables.template? row.id = some row) :
    (do
      commit
      findTemplate (.int row.id) : Attempt Service Template).run (s.pending row.id f) =
      (.ok (f row), s.lasting row.id f) := by
  have hthere : (s.lasting row.id f).tables.template? row.id = some (f row) := by
    show (s.tables.modifyTemplate row.id f).template? row.id = _
    rw [Tables.template?_modifyTemplate hf, hsource]
    exact congrArg some (if_pos rfl)
  rw [Attempt.run_bind, run_commit, Attempt.andThen_ok]
  exact run_findTemplate_int hfits hthere

/-- What is done once the new content is checked. -/
theorem run_rewrite (hfits : Database.fits row.id = true)
    (hsource : s.tables.template? row.id = some row) (name : Option String)
    (description : Option (Option String)) (text : String) :
    (do
      setTemplate row.id ({ · with content := text })
      let now ← time
      setTemplate row.id ({ · with updatedAt := now })
      commit
      findTemplate (.int row.id) : Attempt Service Template).run
        (s.pending row.id (Tables.headed name description)) =
      (.ok (rewritten name description text s.now row),
        s.lasting row.id (rewritten name description text s.now)) := by
  rw [Attempt.run_bind, run_setTemplate, Attempt.andThen_ok,
    pending_pending (Tables.headed_id _ _), Attempt.run_bind, run_time, Attempt.andThen_ok,
    Attempt.run_bind, run_setTemplate, Attempt.andThen_ok, pending_pending fun _ => by rfl]
  exact run_commit_findTemplate (f := rewritten name description text s.now) (fun _ => rfl) hfits
    hsource

/-- How an update ends once its name and its description are in place. -/
def rewriteEnd (s : Service) (row : Template) (content : Json) (name : Option String)
    (description : Option (Option String)) : Except Failure Template × Service :=
  match Content.check content with
  | .ok checked => (.ok (rewritten name description checked.1 s.now row),
      s.lasting row.id (rewritten name description checked.1 s.now))
  | .error failure => (.error failure, s.pending row.id (Tables.headed name description))

theorem run_recheck (hfits : Database.fits row.id = true)
    (hsource : s.tables.template? row.id = some row) (content : Json) (name : Option String)
    (description : Option (Option String)) :
    (do
      let checked ← Attempt.lift (Content.check content)
      setTemplate row.id ({ · with content := checked.1 })
      let now ← time
      setTemplate row.id ({ · with updatedAt := now })
      commit
      findTemplate (.int row.id) : Attempt Service Template).run
        (s.pending row.id (Tables.headed name description)) =
      s.rewriteEnd row content name description := by
  rw [Attempt.run_bind, Attempt.run_lift, rewriteEnd]
  cases Content.check content with
  | error failure => rfl
  | ok checked => exact run_rewrite hfits hsource name description checked.1

theorem run_redescribe (hfits : Database.fits row.id = true)
    (hsource : s.tables.template? row.id = some row) (content : Json) (name : Option String)
    (hdescription : readDescription members = description.map .ok) :
    (do
      if let some (.ok description) := readDescription members then
        setTemplate row.id ({ · with description })
      if let some content := some content then
        let (content, _) ← Attempt.lift (Content.check content)
        setTemplate row.id ({ · with content })
      if let some (.error failure) := readDescription members then
        rollback
        throw failure
      let now ← time
      setTemplate row.id ({ · with updatedAt := now })
      commit
      findTemplate (.int row.id) : Attempt Service Template).run
        (s.pending row.id (Tables.headed name none)) =
      s.rewriteEnd row content name description := by
  rw [hdescription]
  cases description with
  | none => exact run_recheck hfits hsource content name none
  | some description =>
      simp only [Option.map_some]
      rw [Attempt.run_bind, run_setTemplate, Attempt.andThen_ok,
        pending_pending (Tables.headed_id _ _)]
      exact run_recheck hfits hsource content name (some description)

theorem exists_of_mapM_some {α β : Type} {f : α → Except Failure β} {a : α} {read : Option β}
    (h : (some a).mapM f = .ok read) : ∃ b, f a = .ok b ∧ read = some b := by
  cases hf : f a with
  | error failure =>
      rw [Option.mapM_some, hf] at h
      cases h
  | ok b =>
      rw [Option.mapM_some, hf] at h
      exact ⟨b, rfl, (Except.ok.inj h).symm⟩

theorem readDescription_eq (h : (members.get? "description").mapM
    (fun value => Database.column (value.orElse (.str ""))) = .ok description) :
    readDescription members = description.map .ok := by
  rw [readDescription]
  cases hvalue : members.get? "description" with
  | none =>
      rw [hvalue] at h
      cases h
      rfl
  | some value =>
      rw [hvalue] at h
      obtain ⟨held, hcolumn, rfl⟩ := exists_of_mapM_some h
      exact congrArg some hcolumn

theorem run_updateTemplate (h : Rewrites s id members row content name description) :
    (updateTemplate id (.obj members)).run s = s.rewriteEnd row content name description := by
  have hafterName (name : Option String) :=
    run_redescribe h.named.fits h.source content name (readDescription_eq h.described)
  have hname := h.renamed
  unfold updateTemplate
  rw [Attempt.run_bind, run_unsentTemplate h.named h.source h.unsent, Attempt.andThen_ok,
    Attempt.run_bind, Attempt.run_lift, changesIn, Attempt.andThen_ok, h.content]
  cases hvalue : members.get? "name" with
  | none =>
      rw [hvalue] at hname
      cases hname
      have hsame : s.pending row.id (Tables.headed none none) = s := pending_id s row.id
      rw [← hafterName none, hsame]
      rfl
  | some value =>
      rw [hvalue] at hname
      obtain ⟨title, htitle, rfl⟩ := exists_of_mapM_some hname
      rw [← hafterName (some title)]
      simp only
      rw [Attempt.run_bind, run_templateName_of_fst htitle, Attempt.andThen_ok,
        Attempt.run_bind, run_setTemplate, Attempt.andThen_ok]
      rfl

/-! ### What becomes of content -/

/-- **Content that reads as a document is taken or refused with all findings, unless an item is
misnamed.**  The check of the document tells everything that is to be found, and looking content
over tells what the check does.  Where all else is in order, a new template and an update end as
the check decides: the very text that was checked is committed, or nothing is committed and the
findings are given, all of them.  For a document that has a misnamed item, and for no other, none
of the four comes to a result. -/
theorem decided_content (d : Document) :
    Validation.Judged d d.issues ∧
      ∀ content, Content.read content = .ok d →
        Content.examine content = d.check.map (fun issues => ⟨issues, d.answerableIds⟩) ∧
        ∃ text, Content.text content = .ok text ∧
          (∀ s name description admin title held author,
            Signed s name description admin title held author →
            let row := s.newTemplate title held author text
            Decided d (row, s.withTemplate row) s
              ((createTemplate name content admin description).run s)) ∧
          ∀ s id members row name description,
            Rewrites s id members row content name description →
            let f := rewritten name description text s.now
            Decided d (f row, s.lasting row.id f)
              (s.pending row.id (Tables.headed name description))
              ((updateTemplate id (.obj members)).run s) := by
  refine ⟨judged_issues d, fun content hread => ⟨Content.examine_of_read hread, ?_⟩⟩
  obtain ⟨text, htext, hload⟩ := Content.exists_text_of_read hread
  refine ⟨text, htext, ?_, ?_⟩
  · intro s name description admin title held author hsigned row
    rw [run_createTemplate hsigned]
    refine decided_of_check htext hload (fun hcheck => ?_) fun failure hcheck => ?_
    · rw [hcheck]
    · rw [hcheck]
  · intro s id members row name description hrewrites f
    rw [run_updateTemplate hrewrites, rewriteEnd]
    refine decided_of_check htext hload (fun hcheck => ?_) fun failure hcheck => ?_
    · rw [hcheck]
    · rw [hcheck]

/-- An item of a type that is not known here, with a number as its id. -/
def numbered : Json := .obj [("type", .str "new"), ("id", .int 5)]

def numberedDocument : Document := ⟨1, [.unknown "new" numbered]⟩

/-- The template that is there after an author has written one. -/
def authored : Template := ⟨1, "t", some "d", "\x7b\"items\": []\x7d", 1, ⟨0⟩, ⟨0⟩, false⟩

theorem decided_content_numbered :
    let s := (blank ⟨0⟩ (fun _ => "k") 0 none).after authoring
    let content : Json := .obj [("items", .arr [numbered])]
    let members : Entries Json := [("name", .str "u"), ("content", content)]
    Content.read content = .ok numberedDocument ∧
      Signed s (.str " u ") .null (.int 1) "u" (some "") 1 ∧
      Rewrites s (.int 1) members authored content (some "u") none ∧
      (createTemplate (.str " u ") content (.int 1) .null).run s = (.error (.misfit .kind), s) ∧
      ((updateTemplate (.int 1) (.obj members)).run s).1 = .error (.misfit .kind) := by
  intro s content members
  have hread : Content.read content = .ok numberedDocument := by
    have hnumber : (Json.int 5).Writable :=
      ⟨trivial, show Decimal.Double.digitCount 5 ≤ Text.maxDigits by decide⟩
    rw [Content.read_of_writable]
    · rfl
    · simp [Json.writable_obj, Json.writable_arr, Json.writable_str, numbered, hnumber]
  have hsigned : Signed s (.str " u ") .null (.int 1) "u" (some "") 1 :=
    ⟨eq_ok_of_toOption (by decide +kernel), rfl, rfl, by decide +kernel⟩
  have hrewrites : Rewrites s (.int 1) members authored content (some "u") none :=
    ⟨by decide +kernel, ⟨.int 1, rfl, rfl⟩, by decide +kernel, rfl,
      eq_ok_of_toOption (by decide +kernel), rfl⟩
  have hmisnames : numberedDocument.Misnames :=
    ⟨⟨0, [], .unknown "new" numbered⟩, List.mem_singleton_self _, .int 5, rfl, rfl, nofun⟩
  obtain ⟨-, hcontent⟩ := decided_content numberedDocument
  obtain ⟨-, text, -, hcreate, hupdate⟩ := hcontent content hread
  refine ⟨hread, hsigned, hrewrites, ?_, ?_⟩
  · have h := hcreate s (.str " u ") .null (.int 1) "u" (some "") 1 hsigned
    generalize (createTemplate (.str " u ") content (.int 1) .null).run s = reached at h
    cases h with
    | taken hclear => exact absurd hmisnames hclear
    | refused hclear => exact absurd hmisnames hclear
    | broken => rfl
  · have h := hupdate s (.int 1) members authored (some "u") none hrewrites
    generalize (updateTemplate (.int 1) (.obj members)).run s = reached at h
    cases h with
    | taken hclear => exact absurd hmisnames hclear
    | refused hclear => exact absurd hmisnames hclear
    | broken => rfl

/-- The document can be read, and its check comes to nothing. -/
theorem issues_numbered :
    Document.load (.obj [("items", .arr [numbered])]) = .ok numberedDocument ∧
      numberedDocument.issues = .error .kind :=
  ⟨rfl, rfl⟩

end Service

end Questionnaire
