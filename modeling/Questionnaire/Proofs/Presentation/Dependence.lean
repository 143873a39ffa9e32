/-
What a condition depends on.

`referencedIds` are the ids that a condition asks for.  They are all that matters to it: two answer
maps that agree on them meet it alike, `evaluate_congr`, whatever else they hold.  The ids are told
in one walk over the condition and their answers are looked up in another, and the two have to go
the same way at every operator.

A presentation looks at the answers in two places only, the conditions of what is mounted and the
answers of the mounted yes/no questions.  If both come out as recorded, then it is up to date, and
refreshing it does nothing, `refreshAll_of_upToDate`.  So a change of answers that nothing mounted
asks for is never noticed, `depends_on_referencedIds`.
-/
import Questionnaire.Proofs.Presentation.Refresh

namespace Questionnaire

/-- Two answer maps that agree on some ids: each has the same answer in both, or none in both. -/
def Answers.AgreeOn (ids : List String) (a b : Answers) : Prop := ∀ id ∈ ids, a.get? id = b.get? id

/-! ### Conditions -/

namespace Condition

variable {a b : Answers}

mutual

/-- Answers that agree on the ids that a condition asks for meet it alike. -/
theorem holds_congr {c : Condition} (h : a.AgreeOn (reads c) b) : holds a c = holds b c := by
  cases c with
  | always | never => rfl
  | equals id value =>
      have hid : a.get? id = b.get? id := h id (List.mem_singleton_self id)
      rw [holds, holds, hid]
  | all cs => exact (holds_each_congr h).1
  | any cs => exact (holds_each_congr h).2
  | not c =>
      have hc : holds a c = holds b c := holds_congr h
      rw [holds, holds, hc]

/-- The same for a list of conditions, all or any of which are asked to hold. -/
theorem holds_each_congr {cs : List Condition} (h : a.AgreeOn (readsAll cs) b) :
    holdsAll a cs = holdsAll b cs ∧ holdsAny a cs = holdsAny b cs := by
  cases cs with
  | nil => exact ⟨rfl, rfl⟩
  | cons c cs =>
      have hfirst : holds a c = holds b c :=
        holds_congr fun id hid => h id (List.mem_append_left _ hid)
      have hrest : holdsAll a cs = holdsAll b cs ∧ holdsAny a cs = holdsAny b cs :=
        holds_each_congr fun id hid => h id (List.mem_append_right _ hid)
      rw [holdsAll, holdsAll, holdsAny, holdsAny, hfirst, hrest.1, hrest.2]
      exact ⟨rfl, rfl⟩

end

/-- **The ids that a condition asks for are all that it depends on.** -/
theorem evaluate_congr {cond : Json} (h : a.AgreeOn (referencedIds cond) b) :
    evaluate cond a = evaluate cond b := holds_congr h

end Condition

/-- A change of answers that an item does not notice: they agree on what its condition asks for, and
on its id if it is a yes/no question that has one. -/
structure Item.Unmoved (before now : Answers) (item : Item) : Prop where
  cond : before.AgreeOn (Condition.referencedIds item.cond) now
  id : ∀ q yes no, item = .yesNo q yes no → q.id ≠ "" → before.get? q.id = now.get? q.id

theorem Item.Unmoved.of_not_yesNo {before now : Answers} {item : Item}
    (hcond : before.AgreeOn (Condition.referencedIds item.cond) now)
    (h : ∀ q yes no, item ≠ .yesNo q yes no) : item.Unmoved before now :=
  ⟨hcond, fun q yes no hitem => absurd hitem (h q yes no)⟩

/-! ### Mounted items -/

namespace Mounted

variable {answers : Answers}

/-- A mounted item is up to date with some answers: its condition comes out as recorded, and the
open branch of a yes/no question is the one that they open. -/
structure UpToDate (answers : Answers) (m : Mounted) : Prop where
  visible : m.visible = Condition.evaluate m.item.cond answers
  branch : ∀ q yes no, m.item = .yesNo q yes no → m.branch = q.branch? answers

mutual

/-- What is up to date stays as it is, and nothing is reported. -/
theorem refresh_of_upToDate {m : Mounted} (h : ∀ k ∈ subtree m, k.UpToDate answers) :
    refresh answers m = (m, []) := by
  obtain ⟨handle, item, depth, visible, branch, children⟩ := m
  rw [subtree, List.forall_mem_cons] at h
  obtain ⟨⟨hvisible, hbranch⟩, hchildren⟩ := h
  dsimp only at hvisible hbranch
  simp only [refresh, refreshAll_of_upToDate hchildren, ← hvisible, flipped, if_true,
    List.nil_append]
  split
  · next q yes no => rw [if_pos (hbranch q yes no rfl).symm]
  · rfl

theorem refreshAll_of_upToDate {ms : List Mounted} (h : ∀ k ∈ subtrees ms, k.UpToDate answers) :
    refreshAll answers ms = (ms, []) := by
  cases ms with
  | nil => rfl
  | cons m ms =>
      rw [subtrees, List.forall_mem_append] at h
      rw [refreshAll, refresh_of_upToDate h.1, refreshAll_of_upToDate h.2]
      rfl

end

mutual

/-- What is mounted for some answers is up to date with them. -/
theorem upToDate_ofItem (answers : Answers) (depth handle : Nat) (item : Item) :
    ∀ m ∈ subtree (ofItem answers depth handle item), m.UpToDate answers := by
  cases item with
  | block text cond items =>
      rw [ofItem, subtree, List.forall_mem_cons]
      exact ⟨⟨rfl, nofun⟩, upToDate_ofItems answers (depth + 1) (handle + 1) items⟩
  | yesNo q yes no =>
      have hyes := upToDate_ofItems answers (depth + 1) (handle + 1) yes
      have hno := upToDate_ofItems answers (depth + 1) (handle + 1 + Item.sizes yes) no
      rw [ofItem_yesNo, subtree, List.forall_mem_cons]
      refine ⟨⟨rfl, fun _ _ _ hitem => ?_⟩, ?_⟩
      · cases hitem
        rfl
      · match q.branch? answers with
        | none => exact List.forall_mem_nil _
        | some .yes => exact hyes
        | some .no => exact hno
  | info | tip | spacer | line | box | check | radio | radioGroup | checkGroup | unknown =>
      exact List.forall_mem_singleton.mpr ⟨rfl, nofun⟩

theorem upToDate_ofItems (answers : Answers) (depth handle : Nat) (items : List Item) :
    ∀ m ∈ subtrees (ofItems answers depth handle items), m.UpToDate answers := by
  cases items with
  | nil => exact List.forall_mem_nil _
  | cons item items =>
      rw [ofItems, subtrees, List.forall_mem_append]
      exact ⟨upToDate_ofItem answers depth handle item,
        upToDate_ofItems answers depth (handle + item.size) items⟩

end

/-- An item that does not notice a change is up to date after it as it was before. -/
theorem UpToDate.of_unmoved {before now : Answers} {m : Mounted} (h : m.UpToDate before)
    (hunmoved : m.item.Unmoved before now) : m.UpToDate now where
  visible := h.visible.trans (Condition.evaluate_congr hunmoved.cond)
  branch q yes no hitem := by
    rw [h.branch q yes no hitem, Question.branch?, Question.branch?]
    by_cases hid : q.id = ""
    · rw [if_pos hid, if_pos hid]
    · rw [if_neg hid, if_neg hid, hunmoved.id q yes no hitem hid]

end Mounted

/-! ### Presentations -/

namespace Presentation

/-- A presentation of items that are all up to date is not touched by a refresh. -/
theorem refresh_of_upToDate {p : Presentation} {answers : Answers}
    (h : ∀ m ∈ p.mounted, m.UpToDate answers) : p.refresh answers = (p, []) := by
  rw [refresh, Mounted.refreshAll_of_upToDate h]
  rfl

/-- **What is not asked for does not matter.**  A condition comes out the same for all answers that
agree on the ids it asks for.  A presentation that went along with any number of changes is left
exactly as it is by answers that agree with its own on the ids that the conditions of mounted items
ask for and on those of mounted yes/no questions, and nothing is reported as changed. -/
theorem depends_on_referencedIds :
    (∀ (cond : Json) (a b : Answers), a.AgreeOn (Condition.referencedIds cond) b →
      Condition.evaluate cond a = Condition.evaluate cond b) ∧
    ∀ (d : Document) (first : Answers) (changes : List Answers) (now : Answers),
      let before := changes.getLastD first
      let p := (render d first).refreshAlong changes
      (∀ m ∈ p.mounted, m.item.Unmoved before now) → p.refresh now = (p, []) := by
  refine ⟨fun cond a b h => Condition.evaluate_congr h, ?_⟩
  intro d first changes now before p hunmoved
  have hbefore : ∀ m ∈ p.mounted, m.UpToDate before :=
    forall_refreshAlong (P := fun answers p => ∀ m ∈ p.mounted, m.UpToDate answers) d
      (fun answers => Mounted.upToDate_ofItems answers 0 0 d.items) first changes
  exact refresh_of_upToDate fun m hm => (hbefore m hm).of_unmoved (hunmoved m hm)

/-- A block under a condition. -/
def guarded : Item := .block "" (.str "a/1") [.line ⟨"b", "", false, .null⟩ none]

/-- A yes/no question with an item under each answer.  What stands under no asks for an id that
nothing else asks for. -/
def fork : Item :=
  .yesNo ⟨"q", "", false, .obj [("not", .str "a/2")]⟩ [.info "" (.str "a/1")]
    [.info "" (.str "c/1")]

theorem depends_on_referencedIds_fork :
    let d : Document := ⟨1, [guarded, fork]⟩
    let before : Answers := [("a", .str "1"), ("q", .str "yes"), ("b", .str "old")]
    let now : Answers := [("q", .str "yes"), ("b", .str "new"), ("a", .str "1"), ("c", .str "1")]
    let cond : Json := .obj [("or", .arr [.str "a/2", .obj [("q", .str "yes")]])]
    (before.AgreeOn (Condition.referencedIds cond) now ∧
        Condition.evaluate cond before = Condition.evaluate cond now) ∧
      (∀ m ∈ (render d before).mounted, m.item.Unmoved before now) ∧
      (render d before).refresh now = (render d before, []) := by
  intro d before now cond
  have hcond : before.AgreeOn (Condition.referencedIds cond) now := by
    have hids : Condition.referencedIds cond = ["a", "q"] := by
      simp [cond, Condition.referencedIds, Condition.ofJson, Condition.ofOperator,
        Condition.ofOperand, Condition.ofAll, Condition.isOperand, Condition.Operator.name,
        Condition.splitSlash?, Condition.ofFirstMember, Condition.isOperator, Condition.reads,
        Condition.readsAll]
    rw [hids]
    exact List.forall_mem_cons.mpr ⟨rfl, List.forall_mem_singleton.mpr rfl⟩
  have ha : before.AgreeOn ["a"] now := List.forall_mem_singleton.mpr rfl
  have hids : Condition.referencedIds (.str "a/1") = ["a"] ∧
      Condition.referencedIds (.obj [("not", .str "a/2")]) = ["a"] ∧
      Condition.referencedIds .null = [] := by
    simp [Condition.referencedIds, Condition.ofJson, Condition.ofOperator, Condition.ofOperand,
      Condition.isOperand, Condition.Operator.name, Condition.splitSlash?, Condition.reads]
  have hitems : (render d before).mounted.map Mounted.item =
      [guarded, .line ⟨"b", "", false, .null⟩ none, fork, .info "" (.str "a/1")] := rfl
  have hunmoved : ∀ m ∈ (render d before).mounted, m.item.Unmoved before now := by
    rw [← List.forall_mem_map, hitems]
    simp only [List.forall_mem_cons]
    refine ⟨.of_not_yesNo (hids.1 ▸ ha) (by simp [guarded]),
      .of_not_yesNo (hids.2.2 ▸ List.forall_mem_nil _) (by simp), ⟨hids.2.1 ▸ ha, ?_⟩,
      .of_not_yesNo (hids.1 ▸ ha) (by simp), List.forall_mem_nil _⟩
    rintro q yes no hitem -
    cases hitem
    rfl
  exact ⟨⟨hcond, depends_on_referencedIds.1 cond before now hcond⟩, hunmoved,
    depends_on_referencedIds.2 d before [] now hunmoved⟩

end Presentation

end Questionnaire
