/-
Answering a question makes progress.

An answer does two things to what a respondent sees: conditions may read it, and a branch of a
yes/no question may open.  If no condition asks for the id, then all that was visible stays so.
What stands in a yes/no question with that id cannot have been visible, since there was no answer to
open a branch.  So `answering_progresses` counts one answer more than before, and more than one only
if a branch opens on items that have answers already.

That it is exactly one for any other question takes a document without findings, where no two
questions share an id.
-/
import Questionnaire.Proofs.Presentation.Dependence
import Questionnaire.Proofs.Presentation.Visibility
import Questionnaire.Proofs.Document.Validation

namespace Questionnaire

variable {d : Document} {answers : Answers} {id : String} {value : Json}

namespace Document

variable {m n : Node}

/-- Where no key stands twice, an id belongs to one node. -/
theorem eq_of_idText (hsound : Validation.Sound d) (hm : m ∈ d.outline) (hn : n ∈ d.outline)
    (hgiven : n.item.idText ≠ "") (hid : m.item.idText = n.item.idText) : m = n := by
  have hkey {k : Node} (hk : k ∈ d.outline) (hid : k.item.idText = n.item.idText) :
      (n.item.idText, k.handle) ∈ d.keys := by
    have hwritten : n.item.idText ∈ k.item.written := by
      rw [Item.written, hid, if_neg hgiven]
      exact List.mem_append_left _ (List.mem_singleton_self _)
    refine List.mem_filter.mpr ⟨List.mem_flatMap.mpr ⟨k, hk, ?_⟩, decide_eq_true hgiven⟩
    exact List.mem_map_of_mem hwritten
  have hsame := List.inj_on_of_nodup_map hsound.distinct (hkey hm hid) (hkey hn rfl) rfl
  exact node_inj hm hn (congrArg Prod.snd hsame)

theorem idText_of_id {item : Item} (h : item.id = .str id) : item.idText = id := by
  by_cases hid : id = "" <;> simp [Item.idText, h, Json.truthy, Json.str?, hid]

theorem idText_ne_of_counts {item : Item} (hcounts : item.countsForProgress = true)
    (htruthy : item.id.truthy = true) : item.idText ≠ "" := by
  obtain ⟨id, hid⟩ : ∃ id, item.id = .str id := by
    cases item
    case unknown => cases hcounts
    all_goals exact ⟨_, rfl⟩
  rw [idText_of_id hid]
  rw [hid] at htruthy
  exact of_decide_eq_true htruthy

end Document

/-! ### One answer more -/

namespace Answers

theorem isAnswered_set_self (answers : Answers) (id : String) (value : Json) :
    isAnswered (Entries.set answers id value) id = value.isAnswer := by
  rw [isAnswered, Entries.get?_set_self, Option.getD_some]

theorem isAnswered_set_of_ne (answers : Answers) (value : Json) {other : String} (h : other ≠ id) :
    isAnswered (Entries.set answers id value) other = answers.isAnswered other := by
  rw [isAnswered, Entries.get?_set_of_ne _ _ h, isAnswered]

/-- Under an id that had no answer, an answer adds those that ask for the id. -/
theorem countP_isAnswered_set {α : Type} (key : α → String) (hid : answers.isAnswered id = false)
    (hvalue : value.isAnswer = true) (as : List α) :
    as.countP (fun a => isAnswered (Entries.set answers id value) (key a)) =
      as.countP (fun a => answers.isAnswered (key a)) + as.countP (fun a => key a == id) := by
  induction as with
  | nil => rfl
  | cons a as ih =>
      rw [List.countP_cons, List.countP_cons, List.countP_cons, ih]
      by_cases ha : key a = id
      · rw [ha, isAnswered_set_self, hvalue, hid]
        simp
        omega
      · rw [isAnswered_set_of_ne answers value ha, beq_eq_false_iff_ne.mpr ha]
        simp
        omega

end Answers

namespace Presentation

open Document (Node)

variable {n m : Node}

/-- Where conditions come out as before and each way down that was open is open, what was visible
is visible. -/
theorem isVisible_of_opens {now : Answers} (hm : m ∈ d.outline)
    (hconds : ∀ y ∈ d.outline,
      Condition.evaluate y.item.cond now = Condition.evaluate y.item.cond answers)
    (hways : ∀ y ∈ d.outline, y.handle ∈ m.above → y.Opens answers m → y.Opens now m)
    (hvisible : (render d answers).isVisible m.handle = true) :
    (render d now).isVisible m.handle = true := by
  have hbefore := tells_render d answers
  have hafter := tells_render d now
  obtain ⟨hmounted, hmet⟩ := (hbefore.visible m hm).mp hvisible
  refine (hafter.visible m hm).mpr ⟨(hafter.mounted m hm).mpr fun y hy habove => ?_,
    fun y hy hway => ?_⟩
  · exact hways y hy habove ((hbefore.mounted m hm).mp hmounted y hy habove)
  · rw [hconds y hy]
    exact hmet y hy hway

/-- A visible question without an answer, whose id no condition asks for. -/
structure Unanswered (d : Document) (answers : Answers) (n : Node) (id : String) : Prop where
  mem : n ∈ d.outline
  visible : (render d answers).isVisible n.handle = true
  counts : n.item.countsForProgress = true
  named : n.item.id = .str id
  given : id ≠ ""
  missing : answers.get? id = none ∨ answers.get? id = some .null ∨
    answers.get? id = some (.str "")
  unread : ∀ m ∈ d.outline, id ∉ Condition.referencedIds m.item.cond

namespace Unanswered

theorem isAnswered_eq (h : Unanswered d answers n id) : answers.isAnswered id = false := by
  rw [Answers.isAnswered]
  rcases h.missing with hid | hid | hid <;> rw [hid] <;> rfl

theorem get?_ne_branch (h : Unanswered d answers n id) (branch : Branch) :
    answers.get? id ≠ some (.str branch.name) := by
  rcases h.missing with hid | hid | hid <;> rw [hid] <;> cases branch <;> simp [Branch.name]

/-- Conditions come out as before. -/
theorem evaluate_eq (h : Unanswered d answers n id) (hm : m ∈ d.outline) :
    Condition.evaluate m.item.cond (Entries.set answers id value) =
      Condition.evaluate m.item.cond answers :=
  Condition.evaluate_congr fun _ hother =>
    Entries.get?_set_of_ne _ _ fun heq => h.unread m hm (heq ▸ hother)

/-- A question that opens the way to something has an answer, so that it is another one. -/
theorem opens_set (h : Unanswered d answers n id) {y : Node} (hm : m ∈ d.outline)
    (hy : y ∈ d.outline) (habove : y.handle ∈ m.above) (hopens : y.Opens answers m) :
    y.Opens (Entries.set answers id value) m := by
  intro q yes no hitem
  obtain ⟨hgiven, hanswer⟩ := hopens q yes no hitem
  obtain ⟨branch, hbranch⟩ := (tells_render d answers).way m hm y hy habove q yes no hitem
  have hne : q.id ≠ id := by
    intro heq
    exact h.get?_ne_branch branch (heq ▸ hanswer branch ((hbranch branch).mpr rfl))
  refine ⟨hgiven, fun other hother => ?_⟩
  rw [Entries.get?_set_of_ne _ _ hne]
  exact hanswer other hother

/-- What was visible stays visible. -/
theorem isVisible_set (h : Unanswered d answers n id) (hm : m ∈ d.outline)
    (hvisible : (render d answers).isVisible m.handle = true) :
    (render d (Entries.set answers id value)).isVisible m.handle = true := by
  exact isVisible_of_opens hm (fun y hy => h.evaluate_eq hy)
    (fun y hy habove => h.opens_set hm hy habove) hvisible

/-- Unless a yes/no question was answered, nothing else becomes visible. -/
theorem isVisible_of_set (h : Unanswered d answers n id) (hsound : Validation.Sound d)
    (hitem : ∀ q yes no, n.item ≠ .yesNo q yes no) (hm : m ∈ d.outline)
    (hvisible : (render d (Entries.set answers id value)).isVisible m.handle = true) :
    (render d answers).isVisible m.handle = true := by
  refine isVisible_of_opens hm (fun y hy => (h.evaluate_eq hy).symm) ?_ hvisible
  intro y hy _ hopens q yes no hyitem
  obtain ⟨hgiven, hanswer⟩ := hopens q yes no hyitem
  -- With the same id it would be the question that was answered.
  have hne : q.id ≠ id := by
    intro heq
    have hyid : y.item.id = .str id := by rw [hyitem, ← heq]; rfl
    have hyn : y = n := Document.eq_of_idText hsound hy h.mem
      (by rw [Document.idText_of_id h.named]; exact h.given)
      (by rw [Document.idText_of_id h.named, Document.idText_of_id hyid])
    exact hitem q yes no (hyn ▸ hyitem)
  refine ⟨hgiven, fun branch hthrough => ?_⟩
  rw [← Entries.get?_set_of_ne answers value hne]
  exact hanswer branch hthrough

end Unanswered

/-! ### The numbers -/

theorem mem_countedAmong_iff {seen : Nat → Bool} :
    m ∈ countedAmong d seen ↔ m ∈ d.outline ∧ seen m.handle = true ∧
      m.item.countsForProgress = true ∧ m.item.id.truthy = true := by
  rw [countedAmong, List.mem_filter, Bool.and_eq_true, Bool.and_eq_true, and_assoc]

theorem sublist_countedAmong {seen seen' : Nat → Bool}
    (h : ∀ m ∈ d.outline, seen m.handle = true → seen' m.handle = true) :
    (countedAmong d seen).Sublist (countedAmong d seen') := by
  have hfilter : countedAmong d seen = (countedAmong d seen').filter fun m => seen m.handle := by
    rw [countedAmong, countedAmong, List.filter_filter]
    refine List.filter_congr fun m hm => ?_
    cases hseen : seen m.handle with
    | false => simp
    | true => simp [h m hm hseen]
  rw [hfilter]
  exact List.filter_sublist

/-- The visible questions are counted by their nodes. -/
theorem answered_progress (d : Document) (answers given : Answers) :
    ((render d answers).progress given).answered =
      (countedAmong d (render d answers).isVisible).countP fun m =>
        given.isAnswered m.item.idText := by
  have hids := (tells_render d answers).ids
  have hcount := congrArg (List.countP fun j : Json => given.isAnswered (j.str?.getD "")) hids
  rw [List.countP_map, List.countP_map] at hcount
  refine congrArg Int.ofNat (hcount.trans (List.countP_congr fun m hm => ?_))
  obtain ⟨-, -, -, htruthy⟩ := mem_countedAmong_iff.mp hm
  rw [Function.comp_apply, Item.idText, if_pos htruthy]

/-- The question is counted among those that are visible. -/
theorem Unanswered.mem_countedAmong (h : Unanswered d answers n id) :
    n ∈ countedAmong d (render d answers).isVisible := by
  have htruthy : n.item.id.truthy = true := by
    rw [h.named]
    exact decide_eq_true h.given
  exact mem_countedAmong_iff.mpr ⟨h.mem, h.visible, h.counts, htruthy⟩

/-- Where no key stands twice, one of the visible questions has the id. -/
theorem Unanswered.countP_idText (h : Unanswered d answers n id) (hsound : Validation.Sound d) :
    (countedAmong d (render d answers).isVisible).countP (fun m => m.item.idText == id) = 1 := by
  have hid : n.item.idText = id := Document.idText_of_id h.named
  have houtline : d.outline.Nodup :=
    List.Nodup.of_map Node.handle ((Document.pairwise_walk d).imp Nat.ne_of_lt)
  have hids : ((countedAmong d (render d answers).isVisible).map fun m => m.item.idText).Nodup := by
    refine List.Nodup.map_on (fun m hm k hk hsame => ?_) (houtline.filter _)
    obtain ⟨hm, -⟩ := mem_countedAmong_iff.mp hm
    obtain ⟨hk, -, hcounts, htruthy⟩ := mem_countedAmong_iff.mp hk
    exact Document.eq_of_idText hsound hm hk (Document.idText_ne_of_counts hcounts htruthy) hsame
  have hmem : id ∈ (countedAmong d (render d answers).isVisible).map fun m => m.item.idText :=
    List.mem_map.mpr ⟨n, h.mem_countedAmong, hid⟩
  have hcount := List.count_eq_one_of_mem hids hmem
  rwa [List.count, List.countP_map] at hcount

/-- **Answering makes progress.**  Let a document have no findings, and let a question be visible
that has no answer and whose id no condition asks for.  With an answer to it at least one question
more is answered and no fewer are visible; and if it is no yes/no question, exactly one more is
answered, out of as many as before. -/
theorem answering_progresses (hissues : d.issues = .ok []) (h : Unanswered d answers n id)
    (hnull : value ≠ .null) (hempty : value ≠ .str "") :
    let now := Entries.set answers id value
    let before := (render d answers).progress answers
    let after := (render d now).progress now
    (before.answered + 1 ≤ after.answered ∧ before.total ≤ after.total) ∧
      ((∀ q yes no, n.item ≠ .yesNo q yes no) →
        after.answered = before.answered + 1 ∧ after.total = before.total) := by
  intro now before after
  have hsound : Validation.Sound d := by
    obtain ⟨issues, hok, hexact⟩ :=
      Validation.exact_issues (Validation.checkable_of_issues hissues)
    rw [hissues] at hok
    cases hok
    exact hexact.eq_nil_iff.mp rfl
  have hvalue : value.isAnswer = true := by
    cases value <;> simp_all [Json.isAnswer]
  -- The answer counts once for each of the questions that were visible and have the id.
  have hcount : (countedAmong d (render d answers).isVisible).countP
        (fun m => Answers.isAnswered now m.item.idText) =
      (countedAmong d (render d answers).isVisible).countP
        (fun m => answers.isAnswered m.item.idText) + 1 := by
    rw [← h.countP_idText hsound]
    exact Answers.countP_isAnswered_set _ h.isAnswered_eq hvalue _
  have hsub : (countedAmong d (render d answers).isVisible).Sublist
      (countedAmong d (render d now).isVisible) :=
    sublist_countedAmong fun m hm => h.isVisible_set hm
  have hbefore : before.answered = _ := answered_progress d answers answers
  have hafter : after.answered = _ := answered_progress d now now
  have htotal : before.total = _ := (tells_render d answers).total answers
  have htotal' : after.total = _ := (tells_render d now).total now
  rw [hbefore, hafter, htotal, htotal']
  refine ⟨⟨?_, ?_⟩, fun hitem => ?_⟩
  · have hle := hsub.countP_le (p := fun m : Node => Answers.isAnswered now m.item.idText)
    omega
  · exact Int.ofNat_le.mpr hsub.length_le
  · have hsame : countedAmong d (render d now).isVisible =
        countedAmong d (render d answers).isVisible :=
      (sublist_countedAmong fun m hm => h.isVisible_of_set hsound hitem hm).antisymm hsub
    rw [hsame]
    exact ⟨by omega, rfl⟩

/-- A yes/no question with another question under yes, and one behind it. -/
def followedUp : Document :=
  ⟨1, [.yesNo ⟨"a", "", false, .null⟩ [.line ⟨"b", "", false, .null⟩ none] [],
    .line ⟨"c", "", false, .null⟩ none]⟩

/-- An answer under yes that is not asked for yet, and an empty one. -/
def scattered : Answers := [("b", .str "old"), ("c", .str "")]

theorem answering_progresses_followedUp :
    let opened := Entries.set scattered "a" (.str "yes")
    let filled := Entries.set scattered "c" (.int 0)
    let before := (render followedUp scattered).progress scattered
    let afterOpening := (render followedUp opened).progress opened
    let afterFilling := (render followedUp filled).progress filled
    followedUp.issues = .ok [] ∧
      (∃ n, Unanswered followedUp scattered n "a") ∧ (∃ n, Unanswered followedUp scattered n "c") ∧
      (before.answered + 1 ≤ afterOpening.answered ∧ before.total ≤ afterOpening.total) ∧
      afterFilling.answered = before.answered + 1 ∧ afterFilling.total = before.total := by
  intro opened filled before afterOpening afterFilling
  have hnone : Condition.referencedIds .null = [] := by
    simp [Condition.referencedIds, Condition.ofJson, Condition.reads]
  have hmet : Condition.evaluate .null scattered = true := by
    simp [Condition.evaluate, Condition.ofJson, Condition.holds]
  have hunread (id : String) :
      ∀ m ∈ followedUp.outline, id ∉ Condition.referencedIds m.item.cond := by
    have hconds : followedUp.outline.map (fun m => m.item.cond) = [.null, .null, .null] := rfl
    rw [← List.forall_mem_map (P := fun cond => id ∉ Condition.referencedIds cond), hconds]
    simp [hnone]
  have hissues : followedUp.issues = .ok [] := by decide +kernel
  have hfirst : (render followedUp scattered).isVisible 0 = true :=
    isVisible_iff.mpr ⟨_, rfl, List.forall_mem_singleton.mpr hmet⟩
  have hlast : (render followedUp scattered).isVisible 2 = true :=
    isVisible_iff.mpr ⟨_, rfl, List.forall_mem_singleton.mpr hmet⟩
  have ha : Unanswered followedUp scattered _ "a" :=
    ⟨List.mem_of_getElem? (i := 0) rfl, hfirst, rfl, rfl, by decide, .inl rfl, hunread "a"⟩
  have hc : Unanswered followedUp scattered _ "c" :=
    ⟨List.mem_of_getElem? (i := 2) rfl, hlast, rfl, rfl, by decide, .inr (.inr rfl), hunread "c"⟩
  have hyes : Json.str "yes" ≠ .null := by simp
  have hzero : Json.int 0 ≠ .null ∧ Json.int 0 ≠ .str "" := by simp
  have hopening := answering_progresses hissues ha hyes (by simp)
  have hfilling := answering_progresses hissues hc hzero.1 hzero.2
  exact ⟨hissues, ⟨_, ha⟩, ⟨_, hc⟩, hopening.1, hfilling.2 (by simp)⟩

/-- What was answered under yes before is counted as well, once the branch opens. -/
example :
    let now := Entries.set scattered "a" (.str "yes")
    (render followedUp scattered).progress scattered = ⟨0, 2⟩ ∧
      (render followedUp now).progress now = ⟨2, 3⟩ := by
  cbv
  exact ⟨rfl, rfl⟩

/-- Where a condition asks for the id, an answer may hide as much as it adds. -/
example :
    let d : Document := ⟨1, [.line ⟨"a", "", false, .null⟩ none,
      .line ⟨"b", "", false, .obj [("not", .str "a/1")]⟩ none]⟩
    let answers : Answers := [("b", .str "old")]
    let now := Entries.set answers "a" (.str "1")
    (render d answers).progress answers = ⟨1, 2⟩ ∧ (render d now).progress now = ⟨1, 1⟩ := by
  cbv
  exact ⟨rfl, rfl⟩

end Presentation

end Questionnaire
