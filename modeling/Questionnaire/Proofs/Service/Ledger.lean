/-
Versions count the accepted saves.

A run tells a story: which instances were created in it, and which answers were accepted, in this
order.  The answers that are stored can be read off the story alone.  A question of an instance
has one row or none, and the row holds the number of the saves that were accepted on it since the
instance was created, and the text of the last of them: `Entered`.

The ids of instances are not told apart by when they were handed out.  An instance that was
deleted takes its answers along, so that a later one under the same id begins with none; this is
where the story is cut, `Note.follow`, and where it is needed that every answer belongs to an
instance.

The saves that others overtake are in the runs too, as the late writes they consist of
(`run_overtaken`).
-/
import Questionnaire.Proofs.Service.Writing

namespace Questionnaire

/-- An instance that is taken away takes no answer from the others. -/
theorem Tables.answer?_dropInstance {t : Tables} {i j : Int} (hother : j ≠ i) (q : String) :
    (t.dropInstance i).answer? j q = t.answer? j q := by
  simp only [answer?, dropInstance, List.find?_filter]
  refine congrArg (fun p => t.answers.find? p) ?_
  funext a
  by_cases hkey : isAnswerTo j q a = true
  · have howner := (isAnswerTo_iff.mp hkey).1
    simp [hkey, howner, hother]
  · simp [hkey]

namespace Service

/-! ### The story of a run -/

/-- What a run tells. -/
inductive Note
  | created (instanceId : Int)
  | saved (instanceId : Int) (question : String) (value : Option String)
  deriving DecidableEq, Repr

/-- What was accepted on a question of an instance, after one more note. -/
def Note.follow (i : Int) (q : String) (accepted : List (Option String)) :
    Note → List (Option String)
  | .created j => if j = i then [] else accepted
  | .saved j r value => if (j, r) = (i, q) then accepted ++ [value] else accepted

/-- The texts that were accepted on a question since its instance was created. -/
def acceptedSince (i : Int) (q : String) (notes : List Note) : List (Option String) :=
  notes.foldl (Note.follow i q) []

/-- What a write tells: its answer, if it is accepted. -/
def account (target : Option (Int × String)) (value : Option String)
    (outcome : Except Failure SaveOutcome) : List Note :=
  match target with
  | some (i, q) => if Accepted outcome then [.saved i q value] else []
  | none => []

/-- What an event tells. -/
def notes (s : Service) : Event → List Note
  | .call (.createInstance template admin name email) =>
    match ((createInstance template admin name email).run s).1 with
    | .ok row => [.created row.id]
    | .error _ => []
  | .call (.write w) => account (w.target s.tables) w.value (w.run.run s).1
  | _ => []

/-- What a run tells. -/
def story (s : Service) : List Event → List Note
  | [] => []
  | event :: rest => s.notes event ++ (s.step event).story rest

/-- What is stored for a question is what was accepted on it. -/
def Entered (accepted : List (Option String)) : Option StoredAnswer → Prop
  | none => accepted = []
  | some a => a.version = Number.ofInt accepted.length ∧ accepted.getLast? = some a.value

/-- The answers of the instances in a table are what the notes say. -/
def Books (notes : List Note) (t : Tables) : Prop :=
  ∀ row ∈ t.instances, ∀ q, Entered (acceptedSince row.id q notes) (t.answer? row.id q)

theorem acceptedSince_note (i : Int) (q : String) (notes : List Note) (note : Note) :
    acceptedSince i q (notes ++ [note]) = note.follow i q (acceptedSince i q notes) := by
  rw [acceptedSince, List.foldl_append]
  rfl

/-! ### What keeps the books -/

variable {told : List Note} {t u : Tables} {s : Service}

theorem books_empty : Books [] {} := fun _ hrow => absurd hrow List.not_mem_nil

/-- The books depend on the answers, and on which instances there are. -/
theorem Books.of_ids (h : Books told t)
    (hids : ∀ row ∈ u.instances, ∃ old ∈ t.instances, old.id = row.id)
    (hanswers : ∀ row ∈ u.instances, ∀ q, u.answer? row.id q = t.answer? row.id q) :
    Books told u := by
  intro row hrow q
  obtain ⟨old, hold, hid⟩ := hids row hrow
  rw [hanswers row hrow q, ← hid]
  exact h old hold q

theorem Books.of_rows (h : Books told t) (hinstances : u.instances = t.instances)
    (hanswers : u.answers = t.answers) : Books told u := by
  refine h.of_ids (fun row hrow => ⟨row, hinstances ▸ hrow, rfl⟩) fun row _ q => ?_
  rw [Tables.answer?, Tables.answer?, hanswers]

theorem Books.modifyInstance (h : Books told t) {f : Instance → Instance} (i : Int)
    (hid : ∀ row, (f row).id = row.id) : Books told (t.modifyInstance i f) := by
  refine h.of_ids (fun row hrow => ?_) fun row _ q => rfl
  obtain ⟨old, hold, rfl⟩ := List.mem_map.mp hrow
  refine ⟨old, hold, ?_⟩
  split
  · rw [hid]
  · rfl

theorem Books.dropInstance (h : Books told t) (i : Int) : Books told (t.dropInstance i) := by
  refine h.of_ids (fun row hrow => ⟨row, List.mem_of_mem_filter hrow, rfl⟩) fun row hrow q => ?_
  have hother : row.id ≠ i := by simpa using (List.mem_filter.mp hrow).2
  exact Tables.answer?_dropInstance hother q

/-- A new instance has no answers, and its story begins. -/
theorem Books.created (h : Books told t) (hsound : t.Sound) {new row : Instance}
    (hadd : t.addInstance new = .ok (row, u)) : Books (told ++ [.created row.id]) u := by
  obtain ⟨-, -, hrow, rfl⟩ := Tables.addInstance_eq_ok hadd
  have hnew : ∀ old ∈ t.instances, row.id ≠ old.id := by
    intro old hold heq
    refine Tables.nextId_notMem (t.instances.map (·.id)) ?_
    rw [hrow] at heq
    exact List.mem_map.mpr ⟨old, hold, heq.symm⟩
  intro other hother q
  rw [acceptedSince_note]
  rcases List.mem_append.mp hother with hold | hlast
  · rw [Note.follow, if_neg (hnew other hold)]
    exact h other hold q
  · rw [List.mem_singleton.mp hlast, Note.follow, if_pos rfl]
    have hnone : t.answer? row.id q = none := by
      refine List.find?_eq_none.mpr fun a ha hkey => ?_
      obtain ⟨owner, howner, hid⟩ := hsound.owned a ha
      exact hnew owner howner (hid.trans (Tables.isAnswerTo_iff.mp hkey).1).symm
    show Entered [] (t.answer? row.id q)
    rw [hnone]
    rfl

theorem Entered.append {accepted : List (Option String)} {before : Option StoredAnswer}
    {a : StoredAnswer} (h : Entered accepted before) (hfirst : before = none → a.version = .whole 1)
    (hnext : ∀ b, before = some b →
      a.version = b.version.next ∧ Database.fits b.version.writes = true) :
    Entered (accepted ++ [a.value]) (some a) := by
  refine ⟨?_, List.getLast?_concat⟩
  rw [List.length_append, List.length_singleton, Int.natCast_add, Int.natCast_one]
  cases before with
  | none =>
      have hempty : accepted = [] := h
      rw [hempty, hfirst rfl]
      rfl
  | some b =>
      obtain ⟨hversion, hfits⟩ := hnext b rfl
      have hcount : b.version = Number.ofInt accepted.length := h.1
      rw [hcount] at hfits
      rw [hversion, hcount, Number.next_ofInt hfits]

/-- An answer that is stored is one more accepted save. -/
theorem Stored.entered {after : Service} {row : Instance} {q : String} {value : Option String}
    {n : Int} {a : StoredAnswer} (hstored : Stored s row q value n a after)
    (h : Books told s.tables) (hv : s.tables.WellVersioned) (hrow : row ∈ s.tables.instances)
    (hfits : Database.fits n = true) :
    Entered (acceptedSince row.id q told ++ [value]) (some a) := by
  rw [← hstored.value_eq]
  exact (h row hrow q).append hstored.first fun b hb =>
    ⟨hstored.next b hb, hstored.fits_before hv hfits hb⟩

theorem Books.stored {after : Service} {row : Instance} {q : String} {value : Option String}
    {n : Int} {a : StoredAnswer} (h : Books told s.tables) (hv : s.tables.WellVersioned)
    (hrow : row ∈ s.tables.instances) (hfits : Database.fits n = true)
    (hstored : Stored s row q value n a after) :
    Books (told ++ [.saved row.id q value]) after.tables := by
  intro other hother r
  rw [hstored.instances] at hother
  rw [acceptedSince_note, Note.follow]
  by_cases hkey : (row.id, q) = (other.id, r)
  · obtain ⟨hid, rfl⟩ := Prod.mk.inj hkey
    rw [if_pos hkey, ← hid, hstored.found]
    exact hstored.entered h hv hrow hfits
  · rw [if_neg hkey, hstored.others other.id r fun heq => hkey heq.symm]
    exact h other hother r

/-- Whether an operation is one that may tell something. -/
def Operation.isTold : Operation → Bool
  | .createInstance .. | .write _ => true
  | _ => false

theorem stable_books {op : Operation} (hop : op.isTold = false) (told : List Note) :
    Tables.Stable op (Books told) := by
  intro t u h hstep
  cases hstep with
  | author hadd =>
      rw [Tables.addAdmin_eq_ok hadd]
      exact h.of_rows rfl rfl
  | template hadd =>
      rw [Tables.addTemplate_eq_ok hadd]
      exact h.of_rows rfl rfl
  | loggedIn | edited | archived | withoutTemplate => exact h.of_rows rfl rfl
  | submitted | unlocked => exact h.modifyInstance _ fun _ => rfl
  | deleted => exact h.dropInstance _
  | _ => cases hop

/-! ### The books along a run -/

/-- A service whose books are kept. -/
structure Kept (told : List Note) (s : Service) : Prop where
  aligned : s.Aligned
  versions : Lasting Tables.WellVersioned s
  sound : Lasting Tables.Sound s
  books : Lasting (Books told) s

theorem kept_blank (now : Moment) (links : Nat → String) (drawn : Nat) (fillBase : Option String) :
    Kept [] (blank now links drawn fillBase) where
  aligned := ⟨rfl, rfl⟩
  versions := lasting_blank Tables.wellVersioned_empty now links drawn fillBase
  sound := lasting_blank Tables.sound_empty now links drawn fillBase
  books := lasting_blank books_empty now links drawn fillBase

/-- Sending a template begins a story, if it goes through. -/
theorem Kept.books_createInstance (h : Kept told s) (template admin name email : Json) :
    Lasting (Books (told ++ s.notes (.call (.createInstance template admin name email))))
      (s.step (.call (.createInstance template admin name email))) := by
  have hleads := leads_createInstance s.database template admin name email s rfl
  rw [step_createInstance, notes]
  cases hrun : (createInstance template admin name email).run s with
  | mk outcome after =>
      rw [hrun] at hleads
      cases hleads with
      | error hunwritten =>
          rw [List.append_nil]
          exact hunwritten.lasting h.books
      | ok hadded =>
          obtain ⟨new, t, -, hadd, hdone⟩ := hadded
          exact .of_eq hdone (h.books.2.created h.sound.2 hadd)

variable {target : Option (Int × String)} {value : Option String} {version? : Option Int}
  {result : Except Failure SaveOutcome × Service}

/-- What is not accepted tells nothing. -/
theorem account_of_not_accepted {outcome : Except Failure SaveOutcome} (h : ¬Accepted outcome) :
    account target value outcome = [] := by
  unfold account
  split
  case h_1 => exact if_neg h
  case h_2 => rfl

/-- A write goes on with the story, if it is accepted. -/
theorem Written.books (h : Written s target value version? result) (hs : Kept told s) :
    Lasting (Books (told ++ account target value result.1)) result.2 := by
  cases h with
  | @stored row q n a after htarget hrow hfits hstored =>
      have hbooks := hs.books.2.stored hs.versions.2 hrow hfits hstored
      have haccount : account target value (.ok (written a)) = [.saved row.id q value] := by
        simp only [account, htarget, if_pos (accepted_written a)]
      rw [haccount]
      exact .of_settled hstored.ready.settled hbooks
  | @newer _ _ _ b _ _ _ _ _ hafter =>
      have hrefused : ¬Accepted (.ok (Service.newer b)) := not_accepted_newer (some b)
      rw [account_of_not_accepted hrefused, List.append_nil]
      exact hafter.lasting hs.books
  | back hback =>
      rw [account_of_not_accepted hback.refused, List.append_nil]
      exact hback.unwritten.lasting hs.books

theorem Kept.step (h : Kept told s) (event : Event) :
    Kept (told ++ s.notes event) (s.step event) where
  aligned := h.aligned.step event
  versions := h.versions.step fun op _ => Tables.stable_wellVersioned op
  sound := h.sound.step fun op _ => Tables.stable_sound op
  books := by
    cases event with
    | call op =>
        by_cases hop : op.isTold = true
        · cases op with
          | createInstance template admin name email =>
              exact h.books_createInstance template admin name email
          | write w =>
              rw [step_write]
              exact (write_ends h.versions h.aligned w).books h
          | _ => cases hop
        · have hsilent : s.notes (.call op) = [] := by
            cases op with
            | createInstance => exact absurd rfl hop
            | write => exact absurd rfl hop
            | _ => rfl
          rw [hsilent, List.append_nil]
          exact op.keeps (stable_books (Bool.not_eq_true _ ▸ hop) told) s h.books
    | finish =>
        rw [show s.notes .finish = [] from rfl, List.append_nil]
        exact h.books.rollback
    | later now =>
        rw [show s.notes (.later now) = [] from rfl, List.append_nil]
        exact h.books

theorem Kept.after (h : Kept told s) (events : List Event) :
    Kept (told ++ s.story events) (s.after events) := by
  induction events generalizing s told with
  | nil =>
      rw [story, List.append_nil]
      exact h
  | cons event rest ih =>
      rw [story, ← List.append_assoc]
      exact ih (h.step event)

/-! ### What a write reports -/

/-- What a write reports and what it leaves alone, by what was told before it. -/
structure Truthful (told : List Note) (s : Service) (target : Option (Int × String))
    (version? : Option Int) (result : Except Failure SaveOutcome × Service) : Prop where
  /-- An accepted save reports the number under which it is stored. -/
  accepted : ∀ reported updatedAt, result.1 = .ok (.accepted reported updatedAt) →
    ∃ i q, target = some (i, q) ∧
      reported = (Number.ofInt ((acceptedSince i q told).length + 1)).toJson
  /-- A conflict reports the stored version, which is greater than the writer's. -/
  conflict : ∀ c, result.1 = .ok (.conflict c) →
    ∃ i q n a, target = some (i, q) ∧ version? = some n ∧ s.tables.answer? i q = some a ∧
      c.serverVersion = a.version.toJson ∧ n < (acceptedSince i q told).length
  /-- What is not accepted changes no answer. -/
  unchanged : ¬Accepted result.1 →
    result.2.database.committed.answers = s.database.committed.answers ∧
      result.2.database.working.answers = s.database.working.answers

/-- Every answer belongs to an instance, so every answer is in the books. -/
theorem Books.entered (h : Books told t) (hsound : t.Sound) {i : Int} {q : String}
    {a : StoredAnswer} (ha : t.answer? i q = some a) :
    Entered (acceptedSince i q told) (some a) := by
  obtain ⟨hmem, hkey⟩ := Tables.mem_of_answer? ha
  obtain ⟨row, hrow, hid⟩ := hsound.owned a hmem
  have howner : row.id = i := hid.trans (Tables.isAnswerTo_iff.mp hkey).1
  have hentered := h row hrow q
  rwa [howner, ha] at hentered

theorem Unwritten.answers_eq {after : Service} (h : Unwritten s.database after) (hs : s.Aligned) :
    after.database.committed.answers = s.database.committed.answers ∧
      after.database.working.answers = s.database.working.answers := by
  rcases h with hsame | hback
  · rw [hsame]
    exact ⟨rfl, rfl⟩
  · rw [hback]
    exact ⟨rfl, hs.answers.symm⟩

theorem Written.truthful (h : Written s target value version? result) (hs : Kept told s) :
    Truthful told s target version? result := by
  cases h with
  | @stored row q _ a _ htarget hrow hfits hstored =>
      refine ⟨fun reported updatedAt heq => ⟨row.id, q, htarget, ?_⟩, fun c heq => ?_,
        fun hrefused => absurd (accepted_written a) hrefused⟩
      · have hcount := (hstored.entered hs.books.2 hs.versions.2 hrow hfits).1
        rw [List.length_append, List.length_singleton, Int.natCast_add, Int.natCast_one] at hcount
        cases heq
        rw [hcount]
      · cases heq
  | @newer i q n b _ htarget hknown hb hnewer hafter =>
      refine ⟨fun reported updatedAt heq => ?_, fun c heq => ⟨i, q, n, b, htarget, hknown, hb, ?_⟩,
        fun _ => hafter.answers_eq hs.aligned⟩
      · cases heq
      · rw [(hs.books.2.entered hs.sound.2 hb).1] at hnewer
        cases heq
        exact ⟨rfl, Number.lt_of_lt_writes_ofInt (Int.natCast_nonneg _) hnewer⟩
  | back hback =>
      exact ⟨fun reported updatedAt heq => absurd ⟨reported, updatedAt, heq⟩ hback.refused,
        fun c heq => absurd heq (hback.unmet c), fun _ => hback.unwritten.answers_eq hs.aligned⟩

/-- **Versions count the saves that were accepted.**  Wherever a run from empty tables leads, in
what lasts and in what the session sees, a question of an instance has a row just if a save was
accepted on it since the instance was created; the row holds the number of these saves and the
text of the last one, and there is no second row.  A write that comes next reports the next
number or the stored one, and changes an answer only if it is accepted. -/
theorem versions_count_accepted_saves (now : Moment) (links : Nat → String) (drawn : Nat)
    (fillBase : Option String) (events : List Event) :
    let s := (blank now links drawn fillBase).after events
    let told := (blank now links drawn fillBase).story events
    (∀ t, t = s.database.committed ∨ t = s.database.working → ∀ row ∈ t.instances, ∀ q,
        t.answers.filter (Tables.isAnswerTo row.id q) = (t.answer? row.id q).toList ∧
          Entered (acceptedSince row.id q told) (t.answer? row.id q)) ∧
      ∀ w : Write, Truthful told s (w.target s.tables) w.version? (w.run.run s) := by
  intro s told
  have hkept : Kept told s := (kept_blank now links drawn fillBase).after events
  refine ⟨fun t ht row hrow q => ?_, fun w =>
    (write_ends hkept.versions hkept.aligned w).truthful hkept⟩
  rcases ht with rfl | rfl
  · exact ⟨hkept.versions.1.filter_eq_answer? row.id q, hkept.books.1 row hrow q⟩
  · exact ⟨hkept.versions.2.filter_eq_answer? row.id q, hkept.books.2 row hrow q⟩

-- The second save meets version one, of which its writer does not know.
example :
    (blank ⟨0⟩ (fun _ => "k") 0 none).story
      [.call (.createAdmin (.str "a")),
        .call (.createTemplate (.str "t") (.obj [("items", .arr [])]) (.int 1) .null),
        .call (.createInstance (.int 1) (.int 1) (.str "n") (.str "e")),
        .call (.write (.save (.str "k") (.str "q") (.str "x") (.int 0))),
        .call (.write (.save (.str "k") (.str "q") (.str "y") (.int 0))),
        .call (.write (.save (.str "k") (.str "q") (.int 3) (.int 1)))] =
      [.created 1, .saved 1 "q" (some "x"), .saved 1 "q" (some "3")] := by
  decide +kernel

end Service

end Questionnaire
