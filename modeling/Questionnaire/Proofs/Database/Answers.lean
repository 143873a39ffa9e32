/-
What a write does to the answers.

An answer is looked up by its instance and its question, and no two answers share both.
Under that invariant a conditional write touches one answer or none, and `answer?` says
which: `writeAnswer?_eq`.  What the two ways of writing leave behind is stated through
`answer?` alone, so that nothing later looks at the list of rows again.

`WellVersioned` holds of tables that only the operations of this library have filled:
it starts with no answers, an insertion adds version one under a new key, and a write
counts a version on.
-/
import Mathlib.Data.List.Nodup
import Questionnaire.Proofs.Database.Version

namespace Questionnaire

namespace Tables

variable {t : Tables} {i : Int} {q : String}

/-- The key of an answer. -/
def answerKey (a : StoredAnswer) : Int × String := (a.instanceId, a.questionId)

/-- The answers as the operations of this library leave them. -/
structure WellVersioned (t : Tables) : Prop where
  /-- No question of an instance has two answers. -/
  once : (t.answers.map answerKey).Nodup
  /-- Every version was counted from one. -/
  counted : ∀ a ∈ t.answers, a.version.Counted

theorem wellVersioned_empty : WellVersioned {} := ⟨List.nodup_nil, by simp⟩

theorem isAnswerTo_iff {a : StoredAnswer} :
    isAnswerTo i q a = true ↔ a.instanceId = i ∧ a.questionId = q := by
  simp [isAnswerTo]

theorem isAnswerTo_iff_key {a : StoredAnswer} :
    isAnswerTo i q a = true ↔ answerKey a = (i, q) := by
  simp [isAnswerTo, answerKey]

theorem mem_of_answer? {a : StoredAnswer} (h : t.answer? i q = some a) :
    a ∈ t.answers ∧ isAnswerTo i q a = true :=
  ⟨List.mem_of_find?_eq_some h, List.find?_some h⟩

namespace WellVersioned

variable (h : t.WellVersioned)

include h

/-- An answer with the key is the one that is found under it. -/
theorem answer?_of_mem {a : StoredAnswer} (hmem : a ∈ t.answers)
    (hkey : isAnswerTo i q a = true) : t.answer? i q = some a := by
  obtain ⟨b, hb⟩ : ∃ b, t.answer? i q = some b := by
    rw [← Option.isSome_iff_exists]
    exact List.find?_isSome.mpr ⟨a, hmem, hkey⟩
  obtain ⟨hbmem, hbkey⟩ := mem_of_answer? hb
  rw [isAnswerTo_iff_key] at hkey hbkey
  rw [hb, List.inj_on_of_nodup_map h.once hbmem hmem (hbkey.trans hkey.symm)]

/-- The answers under a key are the one that is found under it. -/
theorem filter_eq_answer? (i : Int) (q : String) :
    t.answers.filter (isAnswerTo i q) = (t.answer? i q).toList := by
  have hnodup : (t.answers.filter (isAnswerTo i q)).Nodup := (List.Nodup.of_map _ h.once).filter _
  cases hfound : t.answer? i q with
  | none =>
      rw [Option.toList_none, List.filter_eq_nil_iff]
      exact List.find?_eq_none.mp hfound
  | some a =>
      obtain ⟨hmem, hkey⟩ := mem_of_answer? hfound
      have hself : a ∈ t.answers.filter (isAnswerTo i q) := List.mem_filter.mpr ⟨hmem, hkey⟩
      by_contra hne
      rcases (hnodup.ne_singleton_iff a).mp hne with hnil | ⟨b, hb, hother⟩
      · rw [hnil] at hself
        cases hself
      · obtain ⟨hbmem, hbkey⟩ := List.mem_filter.mp hb
        have hsame := h.answer?_of_mem hbmem hbkey
        rw [hfound] at hsame
        exact hother (Option.some.inj hsame).symm

theorem counted_answer? {a : StoredAnswer} (ha : t.answer? i q = some a) : a.version.Counted :=
  h.counted a (mem_of_answer? ha).1

end WellVersioned

/-! ### Writing an answer once more -/

/-- The tables after the answer to a question was written once more. -/
def renew (t : Tables) (i : Int) (q : String) (value : Option String) (now : Moment) : Tables :=
  { t with answers := t.answers.map fun a => if isAnswerTo i q a then renewed value now a else a }

/-- A write that goes through leaves the instances, and the answer it wrote is there. -/
theorem writeAnswer?_eq_some {value : Option String} {version : Int} {now : Moment} {after : Tables}
    (h : t.writeAnswer? i q value version now = some after) :
    after.instances = t.instances ∧ (after.answer? i q).isSome = true := by
  unfold writeAnswer? at h
  simp only [Option.ite_none_right_eq_some, Option.some.injEq] at h
  obtain ⟨hhit, rfl⟩ := h
  obtain ⟨a, hmem, ha⟩ := List.any_eq_true.mp hhit
  refine ⟨rfl, ?_⟩
  rw [answer?, List.find?_isSome]
  refine ⟨renewed value now a, List.mem_map.mpr ⟨a, hmem, if_pos ha⟩, ?_⟩
  rw [Bool.and_eq_true] at ha
  exact ha.1

/-- An answer that is not there is not written. -/
theorem writeAnswer?_of_missing (h : t.answer? i q = none) (value : Option String) (version : Int)
    (now : Moment) : t.writeAnswer? i q value version now = none := by
  have hnone : ∀ a ∈ t.answers, ¬(isAnswerTo i q a = true) := List.find?_eq_none.mp h
  unfold writeAnswer?
  rw [if_neg]
  intro hhit
  obtain ⟨a, hmem, ha⟩ := List.any_eq_true.mp hhit
  rw [Bool.and_eq_true] at ha
  exact hnone a hmem ha.1

/-- A conditional write renews the one answer that is there, if it is not newer. -/
theorem writeAnswer?_eq (h : t.WellVersioned) (value : Option String) (version : Int)
    (now : Moment) :
    t.writeAnswer? i q value version now =
      (t.answer? i q).bind fun a =>
        if a.version.atMost version then some (t.renew i q value now) else none := by
  cases ha : t.answer? i q with
  | none => exact writeAnswer?_of_missing ha value version now
  | some a =>
      obtain ⟨hmem, hkey⟩ := mem_of_answer? ha
      -- Every answer with the key is this one, so the test of its version is the same.
      have hhit : ∀ b ∈ t.answers, (isAnswerTo i q b && b.version.atMost version) =
          (isAnswerTo i q b && a.version.atMost version) := by
        intro b hb
        by_cases hbkey : isAnswerTo i q b = true
        · have hab : b = a := by
            have hfound := h.answer?_of_mem hb hbkey
            rw [ha] at hfound
            exact (Option.some.inj hfound).symm
          rw [hab]
        · simp [hbkey]
      simp only [writeAnswer?, Option.bind_some]
      by_cases hversion : a.version.atMost version = true
      · rw [if_pos hversion, if_pos]
        · refine congrArg some ?_
          simp only [renew]
          congr 1
          refine List.map_congr_left fun b hb => ?_
          simp only [hhit b hb, hversion, Bool.and_true]
        · rw [List.any_eq_true]
          exact ⟨a, hmem, by rw [hkey, hversion, Bool.and_true]⟩
      · rw [if_neg hversion, if_neg]
        simp only [List.any_eq_true, not_exists, not_and]
        intro b hb
        rw [hhit b hb]
        simp [hversion]

/-- A write renews the answer under its key and leaves the others. -/
theorem answer?_renew (value : Option String) (now : Moment) (j : Int) (r : String) :
    (t.renew i q value now).answer? j r =
      if (j, r) = (i, q) then (t.answer? i q).map (renewed value now) else t.answer? j r := by
  have hkeys : ∀ a : StoredAnswer,
      isAnswerTo j r (if isAnswerTo i q a then renewed value now a else a) = isAnswerTo j r a := by
    intro a
    by_cases ha : isAnswerTo i q a
    · rw [if_pos ha]
      rfl
    · rw [if_neg ha]
  simp only [answer?, renew, List.find?_map, Function.comp_def, hkeys]
  by_cases hkey : (j, r) = (i, q)
  · rw [if_pos hkey]
    obtain ⟨rfl, rfl⟩ := Prod.mk.inj hkey
    cases ha : List.find? (isAnswerTo j r) t.answers with
    | none => rfl
    | some a =>
        have hakey : isAnswerTo j r a = true := List.find?_some ha
        simp [hakey]
  · rw [if_neg hkey]
    cases ha : List.find? (isAnswerTo j r) t.answers with
    | none => rfl
    | some a =>
        have hakey := isAnswerTo_iff_key.mp (List.find?_some ha)
        have hother : ¬(isAnswerTo i q a = true) := by
          rw [isAnswerTo_iff_key, hakey]
          exact hkey
        simp [hother]

theorem WellVersioned.renew (h : t.WellVersioned) (value : Option String) (now : Moment) :
    (t.renew i q value now).WellVersioned := by
  constructor
  · have hmap : (t.renew i q value now).answers.map answerKey = t.answers.map answerKey := by
      simp only [Tables.renew, List.map_map]
      refine List.map_congr_left fun a _ => ?_
      simp only [Function.comp_apply]
      split <;> rfl
    rw [hmap]
    exact h.once
  · intro a ha
    simp only [Tables.renew, List.mem_map] at ha
    obtain ⟨b, hb, rfl⟩ := ha
    split
    · exact (h.counted b hb).next
    · exact h.counted b hb

/-! ### Adding an answer -/

/-- An insertion is refused if the instance is gone or the question has its answer. -/
theorem addAnswer_eq_ok {row added : StoredAnswer} {after : Tables}
    (h : t.addAnswer row = .ok (added, after)) :
    t.answer? row.instanceId row.questionId = none ∧
      added = { row with id := added.id } ∧
      after = { t with answers := t.answers ++ [added] } := by
  unfold addAnswer at h
  by_cases hrefused : ((t.instance? row.instanceId).isNone ||
      (t.answer? row.instanceId row.questionId).isSome) = true
  · rw [if_pos hrefused] at h
    cases h
  · rw [if_neg hrefused] at h
    simp only [Except.ok.injEq, Prod.mk.injEq] at h
    obtain ⟨rfl, rfl⟩ := h
    simp only [Bool.or_eq_true, not_or, Bool.not_eq_true, Option.isSome_eq_false_iff,
      Option.isNone_iff_eq_none] at hrefused
    exact ⟨hrefused.2, rfl, rfl⟩

/-- The tables after a new answer stands at the end. -/
theorem answer?_append {added : StoredAnswer} (hnew : t.answer? i q = none)
    (hkey : answerKey added = (i, q)) (j : Int) (r : String) :
    Tables.answer? { t with answers := t.answers ++ [added] } j r =
      if (j, r) = (i, q) then some added else t.answer? j r := by
  simp only [answer?, List.find?_append]
  by_cases hjr : (j, r) = (i, q)
  · rw [if_pos hjr]
    obtain ⟨rfl, rfl⟩ := Prod.mk.inj hjr
    have hnone : List.find? (isAnswerTo j r) t.answers = none := hnew
    simp [hnone, isAnswerTo_iff_key.mpr hkey]
  · rw [if_neg hjr]
    have hother : ¬(isAnswerTo j r added = true) := by
      rw [isAnswerTo_iff_key, hkey]
      exact fun hc => hjr hc.symm
    simp [hother]

theorem WellVersioned.append (h : t.WellVersioned) {added : StoredAnswer}
    (hnew : t.answer? i q = none) (hkey : answerKey added = (i, q))
    (hcounted : added.version.Counted) :
    WellVersioned { t with answers := t.answers ++ [added] } := by
  constructor
  · rw [List.map_append, List.nodup_append]
    refine ⟨h.once, List.nodup_singleton _, ?_⟩
    intro k hk l hl hkl
    obtain ⟨a, ha, rfl⟩ := List.mem_map.mp hk
    have hl' : l = answerKey added := by simpa using hl
    have hfound : isAnswerTo i q a = true := by
      rw [isAnswerTo_iff_key, hkl, hl', hkey]
    exact absurd hfound (List.find?_eq_none.mp hnew a ha)
  · intro a ha
    rcases List.mem_append.mp ha with hold | hlast
    · exact h.counted a hold
    · rw [List.mem_singleton.mp hlast]
      exact hcounted

end Tables

end Questionnaire
