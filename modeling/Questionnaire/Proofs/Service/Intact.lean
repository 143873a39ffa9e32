/-
What a respondent can meet at an intact service.

Between two requests nothing is pending, the rows belong together and the numbers in them fit their
columns: `Intact`.  Then asking under a link fails in no unforeseen way.  There is the
questionnaire or there is none, a save has one of four ends, `Answered`, and submitting is refused
only where it was done before; and the service is intact again.
-/
import Questionnaire.Proofs.Json.RoundTrip
import Questionnaire.Proofs.Service.Sent
import Questionnaire.Proofs.Service.WellFormed

namespace Questionnaire

open Service (Operation)

namespace Tables

variable {t u : Tables} {row : Instance} {i : Int}

/-- Tables from which every questionnaire can be handed out: besides what holds of the answers,
every instance has its template, and numbers fit their columns. -/
structure Intact (t : Tables) : Prop extends WellVersioned t where
  backed : ∀ row ∈ t.instances, (t.template? row.templateId).isSome = true
  ids : ∀ row ∈ t.instances, Database.fits row.id = true
  revisions : ∀ row ∈ t.instances, Database.fits row.version = true

/-- Tables that operations filled are intact as long as the numbers fit. -/
theorem intact_of_wellFormed (h : t.WellFormed) (hversions : t.WellVersioned)
    (hids : ∀ row ∈ t.instances, Database.fits row.id = true)
    (hrevisions : ∀ row ∈ t.instances, Database.fits row.version = true) : t.Intact where
  toWellVersioned := hversions
  backed row hrow := by
    obtain ⟨source, -, hsource, -⟩ := h.source_of_mem hrow
    rw [hsource]
    rfl
  ids := hids
  revisions := hrevisions

namespace Intact

variable (h : t.Intact)

include h

/-- The instances stay, and so does every template that has one. -/
theorem of_rows (hversions : u.WellVersioned) (hinstances : u.instances = t.instances)
    (htemplates : ∀ row ∈ t.instances, (t.template? row.templateId).isSome = true →
      (u.template? row.templateId).isSome = true) : u.Intact where
  toWellVersioned := hversions
  backed := by
    rw [hinstances]
    exact fun row hrow => htemplates row hrow (h.backed row hrow)
  ids := by rw [hinstances]; exact h.ids
  revisions := by rw [hinstances]; exact h.revisions

/-- An instance changes in other things than its numbers and its template. -/
theorem modifyInstance {f : Instance → Instance} (hversions : (t.modifyInstance i f).WellVersioned)
    (hf : ∀ row, (f row).id = row.id ∧ (f row).version = row.version ∧
      (f row).templateId = row.templateId) : (t.modifyInstance i f).Intact where
  toWellVersioned := hversions
  backed := forall_modifyInstance h.backed (fun row hrow => by rw [(hf row).2.2]; exact hrow) i
  ids := forall_modifyInstance h.ids (fun row hrow => by rw [(hf row).1]; exact hrow) i
  revisions :=
    forall_modifyInstance h.revisions (fun row hrow => by rw [(hf row).2.1]; exact hrow) i

end Intact

/-- **Tables stay intact as long as nothing is sent.** -/
theorem stable_intact {op : Operation}
    (hop : ∀ template admin name email, op ≠ .createInstance template admin name email) :
    Stable op Intact := by
  intro t u h hstep
  have hversions := stable_wellVersioned op t u h.toWellVersioned hstep
  cases hstep with
  | author hadd =>
      obtain rfl := addAdmin_eq_ok hadd
      exact h.of_rows hversions rfl fun _ _ => id
  | loggedIn => exact h.of_rows hversions rfl fun _ _ => id
  | template hadd =>
      refine h.of_rows hversions (by rw [addTemplate_eq_ok hadd]) fun row _ hthere => ?_
      obtain ⟨source, hsource⟩ := Option.isSome_iff_exists.mp hthere
      exact Option.isSome_of_eq_some (template?_addTemplate hadd hsource)
  | edited i f hid =>
      refine h.of_rows hversions rfl fun row _ hthere => ?_
      rw [template?_modifyTemplate hid, Option.isSome_map]
      exact hthere
  | archived i archived now =>
      refine h.of_rows hversions rfl fun row _ hthere => ?_
      rw [template?_modifyTemplate (f := shelved archived now) fun _ => rfl, Option.isSome_map]
      exact hthere
  | withoutTemplate i hempty =>
      refine h.of_rows hversions rfl fun row hrow hthere => ?_
      have hother : row.templateId ≠ i := by
        rintro rfl
        have hmem : row ∈ t.instancesOf row.templateId :=
          List.mem_filter.mpr ⟨hrow, decide_eq_true rfl⟩
        rw [hempty] at hmem
        cases hmem
      rw [template?_dropTemplate hother]
      exact hthere
  | sent => exact absurd rfl (hop _ _ _ _)
  | submitted | unlocked => exact h.modifyInstance hversions fun _ => ⟨rfl, rfl, rfl⟩
  | deleted =>
      exact ⟨hversions, fun row hrow => h.backed row (List.mem_of_mem_filter hrow),
        fun row hrow => h.ids row (List.mem_of_mem_filter hrow),
        fun row hrow => h.revisions row (List.mem_of_mem_filter hrow)⟩
  | first _ hadd | lateFirst _ hadd =>
      obtain ⟨-, -, rfl⟩ := addAnswer_eq_ok hadd
      exact h.of_rows hversions rfl fun _ _ => id
  | again _ hwrite | lateAgain _ _ hwrite =>
      obtain rfl := writeAnswer?_eq_map hwrite
      exact h.of_rows hversions rfl fun _ _ => id

end Tables

/-! ### What is handed out -/

namespace Json

theorem writable_int {n : Int} (h : Database.fits n = true) : (Json.int n).Writable := by
  refine ⟨trivial, ?_⟩
  show Decimal.Double.digitCount n.natAbs ≤ Text.maxDigits
  have hbelow : n.natAbs < 10 ^ 19 := by
    rw [Database.fits_iff] at h
    omega
  exact Nat.le_trans ((Decimal.Double.digitCount_le_iff (by decide)).mpr hbelow) (by decide)

theorem writable_ofText? (text : Option String) : (Json.ofText? text).Writable := by
  cases text with
  | none => exact writable_null
  | some s => exact writable_str s

end Json

theorem Number.Counted.writable {v : Number} (h : v.Counted) : v.toJson.Writable := by
  obtain ⟨n, rfl, hlow, hhigh⟩ | rfl := h.whole_or_beyond
  · exact Json.writable_int (Database.fits_iff.mpr ⟨by omega, hhigh⟩)
  · exact ⟨trivial, trivial⟩

theorem StoredAnswer.writable_record {a : StoredAnswer} (h : a.version.Counted) :
    (Json.obj a.record).Writable := by
  rw [Json.writable_obj, StoredAnswer.record]
  refine ⟨by simp, ?_⟩
  simp [Json.writable_ofText?, h.writable, Json.writable_str]

namespace Tables

variable {t : Tables} {row : Instance}

/-- The answers of an instance can be told under their questions. -/
theorem WellVersioned.writable_records (h : t.WellVersioned) (i : Int) :
    (Json.obj (t.records i)).Writable := by
  rw [Json.writable_obj, records, List.map_map, List.forall_mem_map]
  refine ⟨?_, fun a ha => ?_⟩
  · refine List.Nodup.of_map (fun q => (i, q)) ?_
    have hkeys : (t.answersOf i).map answerKey =
        ((t.answersOf i).map (·.questionId)).map (i, ·) := by
      rw [List.map_map]
      refine List.map_congr_left fun a ha => ?_
      exact congrArg (·, a.questionId) (of_decide_eq_true (List.mem_filter.mp ha).2)
    show (((t.answersOf i).map (·.questionId)).map fun q => (i, q)).Nodup
    rw [← hkeys]
    exact (List.filter_sublist.map answerKey).nodup h.once
  · exact StoredAnswer.writable_record (h.counted a (List.mem_of_mem_filter ha))

theorem Intact.writable_handout (h : t.Intact) (hrow : row ∈ t.instances) (source : Template) :
    (t.handout row source).Writable := by
  have hsubmitted : (Moment.toJson? row.submittedAt).Writable := by
    cases row.submittedAt with
    | none => exact Json.writable_null
    | some m => exact Json.writable_str m.iso
  rw [handout, Json.writable_obj]
  refine ⟨by simp, ?_⟩
  simp [Json.writable_int (h.ids row hrow), Json.writable_int (h.revisions row hrow),
    Json.writable_str, Json.writable_bool, hsubmitted, h.writable_records row.id]

/-- Under a link there is a questionnaire that can be told, or there is none. -/
theorem Intact.handed (h : t.Intact) (link : String) :
    (∃ payload, t.handed (.str link) = .ok payload ∧ payload.Writable) ∨
      t.handed (.str link) = .error (.notFound "Questionnaire" .null) := by
  rw [Tables.handed, under_str]
  cases hrow : t.instanceAt? link with
  | none => exact Or.inr rfl
  | some row =>
      have hmem := List.mem_of_find?_eq_some hrow
      obtain ⟨source, hsource⟩ := Option.isSome_iff_exists.mp (h.backed row hmem)
      have hchecked : Database.checked row.id = .ok row.id :=
        Database.checked_eq_ok.mpr ⟨h.ids row hmem, rfl⟩
      refine Or.inl ⟨t.handout row source, ?_, h.writable_handout hmem source⟩
      simp only [hsource, hchecked]
      rfl

end Tables

namespace Service

variable {s after : Service} {op : Operation} {link q : String} {n : Int}

/-- A service between two requests, with intact tables. -/
structure Intact (s : Service) : Prop where
  settled : s.Settled
  tables : s.tables.Intact

theorem Ends.settled (h : Ends op s after) (hs : s.Settled) : after.Settled := by
  rcases h with (hsame | hback) | ⟨t, u, -, -, hdone⟩
  · rw [Settled, hsame]
    exact hs
  · rw [Settled, hback]
    rfl
  · rw [Settled, hdone]

/-- What ends with nothing sent leaves the service intact. -/
theorem Intact.of_ends (h : s.Intact) (hends : Ends op s after)
    (hop : ∀ template admin name email, op ≠ .createInstance template admin name email) :
    after.Intact :=
  ⟨hends.settled h.settled,
    (hends.lasting (Tables.stable_intact hop) (.of_settled h.settled h.tables)).2⟩

/-- **Whatever runs lead to is intact between two requests**, as long as the ids and the versions of
the instances fit their columns. -/
theorem intact_after_turns (now : Moment) (links : Nat → String) (drawn : Nat)
    (fillBase : Option String) (turns : List Turn)
    (hfits : ∀ row ∈ ((blank now links drawn fillBase).turns turns).database.committed.instances,
      Database.fits row.id = true ∧ Database.fits row.version = true) :
    (((blank now links drawn fillBase).turns turns).step .finish).Intact := by
  have hformed : Lasting Tables.WellFormed ((blank now links drawn fillBase).turns turns) :=
    (lasting_blank Tables.wellFormed_empty now links drawn fillBase).turns
      fun _ _ op _ => Tables.stable_wellFormed op
  have hversions : Lasting Tables.WellVersioned ((blank now links drawn fillBase).turns turns) :=
    (lasting_blank Tables.wellVersioned_empty now links drawn fillBase).turns
      fun _ _ op _ => Tables.stable_wellVersioned op
  exact ⟨rfl, Tables.intact_of_wellFormed hformed.1 hversions.1
    (fun row hrow => (hfits row hrow).1) fun row hrow => (hfits row hrow).2⟩

/-- What a save is answered at an intact service. -/
inductive Answered : SaveOutcome → Prop
  | accepted {v : Number} (h : v.Counted) (m : Moment) :
      Answered (.accepted v.toJson (.str m.iso))
  | conflict {v : Number} (h : v.Counted) (m : Moment) :
      Answered (.conflict ⟨v.toJson, .str m.iso⟩)
  | locked : Answered (.rejected .locked (.str "Questionnaire is locked"))
  | unknown : Answered noQuestionnaire

/-- **A save at an intact service is answered, and leaves it intact.** -/
theorem Intact.run_save (h : s.Intact) (link : String) (hq : q ≠ "") (value : Json)
    (hfits : Database.fits n = true) :
    ∃ outcome after, (save (.str link) (.str q) value (.int n)).run s = (.ok outcome, after) ∧
      Answered outcome ∧ after.Intact := by
  have hends := ends_save (.str link) (.str q) value (.int n) s
  have hafter := h.of_ends hends nofun
  suffices hanswered : ∃ outcome,
      ((save (.str link) (.str q) value (.int n)).run s).1 = .ok outcome ∧ Answered outcome by
    obtain ⟨outcome, hrun, hanswered⟩ := hanswered
    exact ⟨outcome, _, Prod.ext hrun rfl, hanswered, hafter⟩
  have hnamed : (Json.str q).truthy = true := decide_eq_true hq
  cases hfound : s.tables.instanceAt? link with
  | none =>
      refine ⟨noQuestionnaire, ?_, .unknown⟩
      simp only [save, saveAmong, hnamed, Bool.not_true, Bool.false_eq_true, if_false,
        readVersion, Json.whole, Attempt.run_bind, Attempt.run_lift, Attempt.andThen_ok,
        run_instanceUnder, Tables.under_str, hfound]
      rfl
  | some row =>
  cases hlocked : row.isLocked with
  | true =>
      refine ⟨_, ?_, .locked⟩
      simp only [save, saveAmong, hnamed, Bool.not_true, Bool.false_eq_true, if_false,
        readVersion, Json.whole, Attempt.run_bind, Attempt.run_lift, Attempt.andThen_ok,
        run_instanceUnder, Tables.under_str, hfound, hlocked, if_true]
      rfl
  | false =>
      have hin : Admitted s.tables (.str link) (.str q) (.int n) row q n :=
        ⟨hnamed, rfl, by rw [Tables.under_str, hfound], hlocked, rfl, hfits⟩
      rcases run_save_of_admitted value h.tables.toWellVersioned hin with
        ⟨a, hrun, hstored⟩ | ⟨b, hb, -, hrun⟩
      · have hcounted := hstored.ready.versions.counted_answer? hstored.found
        exact ⟨_, hrun, .accepted hcounted a.updatedAt⟩
      · have hcounted := h.tables.counted_answer? hb
        exact ⟨_, congrArg Prod.fst hrun, .conflict hcounted b.updatedAt⟩

/-- What submitting is answered at an intact service. -/
theorem Intact.run_submit (h : s.Intact) (link : String) :
    ∃ outcome after, (store.submit (.str link)).run s = (outcome, after) ∧ after.Intact ∧
      (outcome = .ok () ∨ outcome = .error (.notFound "Questionnaire" .null) ∨
        outcome = .error (.alreadySubmitted "Already submitted")) := by
  have hends := ends_submit (.str link) s
  have hafter := h.of_ends hends nofun
  refine ⟨_, _, Attempt.run_return (submit (.str link)) (fun _ => ()) s, hafter, ?_⟩
  rw [Service.run_submit, Tables.under_str]
  cases hfound : s.tables.instanceAt? link with
  | none => exact Or.inr (Or.inl rfl)
  | some row =>
  cases hlocked : row.isLocked with
  | true =>
      simp only [hlocked, if_true]
      exact Or.inr (Or.inr rfl)
  | false =>
      refine Or.inl ?_
      have hmem := List.mem_of_find?_eq_some hfound
      let t := s.tables.modifyInstance row.id (Tables.submittedAs s.now)
      -- The row that was changed is looked up once more.
      obtain ⟨changed, hchanged⟩ : ∃ changed, t.instance? row.id = some changed := by
        refine Option.isSome_iff_exists.mp (List.find?_isSome.mpr
          ⟨_, List.mem_map.mpr ⟨row, hmem, if_pos rfl⟩, decide_eq_true rfl⟩)
      have hnames : Database.Names (.int row.id) row.id :=
        ⟨.int row.id, rfl, Database.id?_of_fits (h.tables.ids row hmem)⟩
      have hthere : t.found (.int row.id) = .ok changed := by
        rw [Tables.found_eq_ok, Tables.named_of_names hnames, hchanged]
      simp only [hlocked, Bool.false_eq_true, if_false]
      rw [hthere]
      rfl

end Service

end Questionnaire
