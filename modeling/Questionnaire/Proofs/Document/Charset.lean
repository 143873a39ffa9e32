/-
The characters of an id.

Every id that is the key of an answer is looked at for its form, `charset_of_issues`.  The form is
meant to be letters, digits, underscore and hyphen, `Plain`, but the check looks no further than the
end of a line, and so takes an id with a line feed behind it as well, `PlainLine`.  Of an id without
a line feed it does say what is meant.
-/
import Questionnaire.Proofs.Attempt
import Questionnaire.Proofs.Document.Validation

namespace Questionnaire

namespace Validation

/-- One or more characters, each of them a letter or a digit of ASCII, an underscore or a hyphen. -/
def Plain (id : String) : Prop :=
  id ≠ "" ∧ ∀ c ∈ id.toList, c.isAlphanum = true ∨ c = '_' ∨ c = '-'

/-- The same, with a line feed behind it or not. -/
def PlainLine (id : String) : Prop := ∃ plain, Plain plain ∧ (id = plain ∨ id = plain ++ "\n")

theorem isIdChar_iff {c : Char} : isIdChar c = true ↔ c.isAlphanum = true ∨ c = '_' ∨ c = '-' := by
  have hupper : c.isUpper = ('A' ≤ c && c ≤ 'Z') := Bool.decide_and _ _
  have halphanum : c.isAlphanum =
      (c.isUpper || ('a' ≤ c && c ≤ 'z') || ('0' ≤ c && c ≤ '9')) := rfl
  simp [isIdChar, halphanum, hupper, or_assoc]

theorem plain_iff {id : String} : Plain id ↔ id.toList ≠ [] ∧ id.toList.all isIdChar = true := by
  simp only [Plain, List.all_eq_true, isIdChar_iff, ne_eq, String.toList_eq_nil_iff]

theorem Plain.lineFeed_not_mem {id : String} (h : Plain id) : '\n' ∉ id.toList := by
  intro hmem
  exact absurd (h.2 _ hmem) (by decide)

/-- A line feed at the end of an id is not looked at. -/
theorem isId_append_lineFeed {id : String} : isId (id ++ "\n") = true ↔ Plain id := by
  have hreverse : (id ++ "\n").toList.reverse = '\n' :: id.toList.reverse := by
    rw [String.toList_append, List.reverse_append]
    rfl
  rw [isId, hreverse, plain_iff]
  simp

/-- An id that does not end with a line feed is looked at as a whole. -/
theorem isId_iff_plain {id : String} (h : ∀ cs, id.toList.reverse ≠ '\n' :: cs) :
    isId id = true ↔ Plain id := by
  rw [isId, plain_iff]
  split
  case h_1 cs hreverse => exact absurd hreverse (h cs)
  case h_2 => simp

theorem isId_iff {id : String} : isId id = true ↔ PlainLine id := by
  constructor
  · intro h
    by_cases hend : ∃ cs, id.toList.reverse = '\n' :: cs
    · obtain ⟨cs, hcs⟩ := hend
      have hid : id = String.ofList cs.reverse ++ "\n" := by
        rw [← String.toList_inj, String.toList_append, String.toList_ofList,
          ← List.reverse_reverse id.toList, hcs, List.reverse_cons]
        rfl
      rw [hid] at h
      exact ⟨_, isId_append_lineFeed.mp h, .inr hid⟩
    · exact ⟨id, (isId_iff_plain (not_exists.mp hend)).mp h, .inl rfl⟩
  · rintro ⟨plain, hplain, rfl | rfl⟩
    · refine (isId_iff_plain fun cs hcs => hplain.lineFeed_not_mem ?_).mpr hplain
      rw [← List.mem_reverse, hcs]
      exact List.mem_cons_self
    · exact isId_append_lineFeed.mpr hplain

/-- Without a line feed there is only what is meant. -/
theorem PlainLine.plain_iff {id : String} (h : PlainLine id) : Plain id ↔ '\n' ∉ id.toList := by
  refine ⟨Plain.lineFeed_not_mem, fun hnone => ?_⟩
  obtain ⟨plain, hplain, rfl | rfl⟩ := h
  · exact hplain
  · exact absurd (by simp) hnone

theorem PlainLine.ne_empty {id : String} (h : PlainLine id) : id ≠ "" := by
  obtain ⟨plain, hplain, rfl | rfl⟩ := h
  · exact hplain.1
  · simp

/-! ### The ids of a document -/

/-- An id of an item that is the key of an answer: its own one, if it has one, or that of an option,
if it is a checkbox group. -/
def Carries (item : Item) (id : String) : Prop :=
  item.id = .str id ∧ id ≠ "" ∨
    ∃ q group, item = .checkGroup q group ∧ ∃ choice ∈ group.choices, choice.id = id

theorem Carries.mem_written {item : Item} {id : String} (h : Carries item id) :
    id ∈ item.written := by
  rw [Item.written, List.mem_append]
  rcases h with ⟨hid, hne⟩ | ⟨q, group, rfl, choice, hchoice, rfl⟩
  · refine .inl ?_
    simp [Item.idText, hid, Json.truthy, Json.str?, hne]
  · exact .inr (List.mem_map_of_mem hchoice)

variable {d : Document} {issues : List Issue}

/-- **Every id is looked at for its form.**  Where a document can be checked, an id of it is told of
as badly formed unless it is plain but for a line feed behind it.  So in a document without findings
every id is of that form, at any depth, and plain if it has no line feed. -/
theorem charset_of_issues (h : d.issues = .ok issues) :
    (∀ n ∈ d.outline, ∀ id, Carries n.item id →
      (.invalidId id n.handle ∈ issues ↔ ¬PlainLine id)) ∧
    (issues = [] → ∀ n ∈ d.outline, ∀ id, Carries n.item id →
      id ≠ "" ∧ PlainLine id ∧ (Plain id ↔ '\n' ∉ id.toList)) := by
  obtain ⟨found, hfound, hexact⟩ := exact_issues (checkable_of_issues h)
  obtain rfl : found = issues := Except.ok.inj (hfound.symm.trans h)
  have hcarried : ∀ n ∈ d.outline, ∀ id, Carries n.item id → (id, n.handle) ∈ d.written :=
    fun n hn id hid => List.mem_flatMap.mpr ⟨n, hn, List.mem_map_of_mem hid.mem_written⟩
  constructor
  · intro n hn id hid
    have hmem : Issue.invalidId id n.handle ∈ found ↔
        .invalidId id n.handle ∈ malformed d.written := by
      rw [← hexact.formats, mem_ofCode]
      exact (and_iff_left rfl).symm
    rw [hmem, malformed, List.mem_map, ← isId_iff]
    constructor
    · rintro ⟨k, hk, heq⟩
      obtain ⟨rfl, -⟩ := Issue.invalidId.inj heq
      simpa using (List.mem_filter.mp hk).2
    · intro hbad
      exact ⟨(id, n.handle), List.mem_filter.mpr ⟨hcarried n hn id hid, by simpa using hbad⟩, rfl⟩
  · intro hnone n hn id hid
    have hwell := (hexact.eq_nil_iff.mp hnone).wellFormed _ (hcarried n hn id hid)
    have hline : PlainLine id := isId_iff.mp hwell
    exact ⟨hline.ne_empty, hline, hline.plain_iff⟩

/-- A group under yes, with a line feed in one of its ids. -/
def fed : Document :=
  ⟨1, [.yesNo ⟨"q", "", false, .null⟩
    [.checkGroup ⟨"g", "", false, .null⟩ ⟨[⟨"a-1", "A"⟩, ⟨"b_2\n", "B"⟩], none⟩] []]⟩

theorem charset_of_issues_fed :
    fed.issues = .ok [] ∧ ∀ n ∈ fed.outline, ∀ id, Carries n.item id →
      id ≠ "" ∧ PlainLine id ∧ (Plain id ↔ '\n' ∉ id.toList) := by
  have h : fed.issues = .ok [] := eq_ok_of_toOption (by decide +kernel)
  exact ⟨h, (charset_of_issues h).2 rfl⟩

/-- A question with a line feed in its id. -/
def ended : Document := ⟨1, [.line ⟨"q\n", "Q", false, .null⟩ none]⟩

/-- A document that is read without findings although an id of it is not plain. -/
theorem not_plain_ended :
    Document.load (.obj [("version", .int 1), ("items", .arr
      [.obj [("type", .str "line"), ("id", .str "q\n"), ("text", .str "Q")]])]) = .ok ended ∧
    ended.issues = .ok [] ∧ ¬∀ n ∈ ended.outline, ∀ id, Carries n.item id → Plain id := by
  refine ⟨rfl, eq_ok_of_toOption (by decide +kernel), fun hplain => ?_⟩
  have hid : Plain "q\n" :=
    hplain ⟨0, [], _⟩ (List.mem_singleton_self _) "q\n" (.inl ⟨rfl, by decide⟩)
  exact hid.lineFeed_not_mem (by decide)

end Validation

end Questionnaire
