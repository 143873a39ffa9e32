/-
Counting up to a free id.

An id is made up by counting: the numbers behind a stem are tried one after the other until one
gives an id that nothing has.  Nothing but the ids themselves ends the count, `CountsOn`.  It ends
since different numbers give different ids, so that the ids in use can turn away no more numbers
than there are of them; and it ends at the least number that is free.

What is in use, `InUse`, is said without the reading of it: an id that an item of the editor has,
or an option of a checkbox group.  The two agree wherever they can be read, for an item at a time
and then for all, `Reads`.  Not everything can: an id may be a list or an object, and where the
choices of a checkbox group should be there may be a number, which is no list to go through.  One
item that is not `Legible` is enough for no id to be made up.
-/
import Mathlib.Order.Bounds.Defs
import Questionnaire.Proofs.Editor.Identifiers
import Questionnaire.Proofs.Editor.Session

namespace Questionnaire.Editor

variable {e : Editor} {stem : String}

/-! ### What is in use -/

/-- The attributes are those of a checkbox group with an option of that id. -/
def Offers (attributes : Entries Json) (id : String) : Prop :=
  attributes.get? "type" = some (.str "checkgroup") ∧
    ∃ choices ms, attributes.get? "choices" = some (.arr choices) ∧ .obj ms ∈ choices ∧
      id ∈ Entries.names ms

/-- An item has the id, or a checkbox group has an option with it. -/
def InUse (e : Editor) (id : String) : Prop :=
  ∃ item ∈ e.live, item.attributes.get? "id" = some (.str id) ∨ Offers item.attributes id

/-- An id among the attributes is no list and no object, unless that is empty. -/
def LegibleId (attributes : Entries Json) : Prop :=
  (∀ v vs, attributes.get? "id" ≠ some (.arr (v :: vs))) ∧
    ∀ m ms, attributes.get? "id" ≠ some (.obj (m :: ms))

/-- The choices of a checkbox group are no number and no truth value, unless that counts as no. -/
def LegibleChoices (attributes : Entries Json) : Prop :=
  attributes.get? "type" = some (.str "checkgroup") → ∀ choices,
    attributes.get? "choices" = some choices → choices.number?.isSome = true →
      choices.truthy = false

/-- The ids that the attributes give can be read. -/
def Legible (attributes : Entries Json) : Prop :=
  LegibleId attributes ∧ LegibleChoices attributes

/-! ### Reading what is in use -/

/-- What reading ids comes to: where they are legible, the texts among them are those that are
there, the empty text apart; where they are not, nothing is read at all. -/
inductive Reads (legible : Prop) (there : String → Prop) : Except Misfit (List Json) → Prop
  | ids {ids : List Json} (hlegible : legible)
      (hids : ∀ id ≠ "", .str id ∈ ids ↔ there id) : Reads legible there (.ok ids)
  | misfit (hnot : ¬legible) : Reads legible there (.error .kind)

namespace Reads

variable {p q : Prop} {P Q : String → Prop} {x y : Except Misfit (List Json)}

theorem append (hx : Reads p P x) (hy : Reads q Q y) :
    Reads (p ∧ q) (fun id => P id ∨ Q id) (do return (← x) ++ (← y)) := by
  cases hx with
  | misfit hnot => exact misfit fun h => hnot h.1
  | ids hp hP =>
      cases hy with
      | misfit hnot => exact misfit fun h => hnot h.2
      | ids hq hQ =>
          exact ids ⟨hp, hq⟩ fun id hid => by rw [List.mem_append, hP id hid, hQ id hid]

theorem congr (h : Reads p P x) (hp : p ↔ q) (hP : ∀ id ≠ "", P id ↔ Q id) : Reads q Q x := by
  cases h with
  | ids hlegible hids => exact ids (hp.mp hlegible) fun id hid => (hids id hid).trans (hP id hid)
  | misfit hnot => exact misfit fun h => hnot (hp.mpr h)

/-- What is read one after the other is read together. -/
theorem each {α : Type} {p : α → Prop} {P : α → String → Prop}
    {read : α → Except Misfit (List Json)} (h : ∀ a, Reads (p a) (P a) (read a)) (as : List α) :
    Reads (∀ a ∈ as, p a) (fun id => ∃ a ∈ as, P a id)
      (do return (← as.mapM read).flatten) := by
  induction as with
  | nil => exact ids (by simp) (by simp)
  | cons a as ih =>
      have happend := ((h a).append ih).congr (q := ∀ b ∈ a :: as, p b)
        (Q := fun id => ∃ b ∈ a :: as, P b id) List.forall_mem_cons.symm
        fun id _ => (List.exists_mem_cons_iff (P · id) a as).symm
      rw [List.mapM_cons]
      cases hread : read a with
      | error m => rwa [hread] at happend
      | ok own =>
          rw [hread] at happend
          cases hrest : as.mapM read with
          | error m => rwa [hrest] at happend
          | ok rest => rwa [hrest] at happend

end Reads

/-- The id of an item, if it counts. -/
def ownIds (id : Json) : Except Misfit (List Json) :=
  if id.truthy then
    match id with
    | .arr _ | .obj _ => .error .kind
    | id => .ok [id]
  else .ok []

/-- The ids of the options, if the attributes are those of a checkbox group. -/
def optionIds (attributes : Entries Json) : Except Misfit (List Json) :=
  if Json.sameAs (attributes.get? "type") (.str "checkgroup") then
    choiceIds ((attributes.get? "choices").getD .null)
  else .ok []

theorem idsOf_eq (attributes : Entries Json) :
    idsOf attributes = do
      return (← ownIds ((attributes.get? "id").getD .null)) ++ (← optionIds attributes) := by
  unfold idsOf ownIds optionIds
  cases (attributes.get? "id").getD .null <;> dsimp only <;> split_ifs <;> rfl

theorem reads_ownIds (attributes : Entries Json) :
    Reads (LegibleId attributes) (fun id => attributes.get? "id" = some (.str id))
      (ownIds ((attributes.get? "id").getD .null)) := by
  unfold LegibleId ownIds
  cases attributes.get? "id" with
  | none => exact .ids (by simp) (by simp)
  | some v =>
      rw [Option.getD_some]
      cases v with
      | arr vs =>
          cases vs with
          | nil => exact .ids (by simp) (by simp)
          | cons w ws => exact .misfit fun h => h.1 w ws rfl
      | obj ms =>
          cases ms with
          | nil => exact .ids (by simp) (by simp)
          | cons m ms => exact .misfit fun h => h.2 m ms rfl
      | str s =>
          split
          case isTrue => exact .ids (by simp) (by simp [eq_comm])
          case isFalse hempty =>
            obtain rfl : s = "" := by simpa [Json.truthy] using hempty
            exact .ids (by simp) fun id hid => by simp [hid.symm]
      | null | bool | int | float => split <;> exact .ids (by simp) (by simp)

/-- What reading the choices of a checkbox group comes to. -/
theorem reads_choiceIds (choices : Json) :
    Reads (choices.number?.isSome = true → choices.truthy = false)
      (fun id => ∃ entries ms, choices = .arr entries ∧ .obj ms ∈ entries ∧ id ∈ Entries.names ms)
      (choiceIds choices) := by
  unfold choiceIds
  cases choices with
  | arr entries =>
      refine .ids (by simp [Json.number?]) fun id _ => ?_
      rw [List.mem_flatMap]
      constructor
      · rintro ⟨entry, hentry, hid⟩
        obtain ⟨name, hname, hsame⟩ := List.mem_map.mp hid
        obtain rfl := Json.str.inj hsame
        cases entry with
        | obj ms => exact ⟨entries, ms, rfl, hentry, hname⟩
        | null | bool | int | float | str | arr => cases hname
      · rintro ⟨_, ms, ⟨rfl⟩, hms, hname⟩
        exact ⟨.obj ms, hms, List.mem_map_of_mem hname⟩
  | null => exact .ids (fun _ => rfl) (by simp)
  | str | obj => dsimp only; split <;> exact .ids (by simp [Json.number?]) (by simp)
  | bool | int | float =>
      dsimp only
      split
      case isTrue htruthy => exact .misfit (by simp [Json.number?, htruthy])
      case isFalse hfalse => exact .ids (by simp [hfalse]) (by simp)

theorem reads_optionIds (attributes : Entries Json) :
    Reads (LegibleChoices attributes) (Offers attributes) (optionIds attributes) := by
  by_cases htype : attributes.get? "type" = some (.str "checkgroup")
  · rw [optionIds, if_pos (sameAs_str_iff.mpr htype)]
    refine (reads_choiceIds _).congr ?_ fun id _ => ?_ <;>
      cases hchoices : attributes.get? "choices" <;>
        simp [LegibleChoices, Offers, htype, hchoices, Json.number?]
  · rw [optionIds, if_neg (mt sameAs_str_iff.mp htype)]
    exact .ids (fun h => absurd h htype) fun id _ => by simp [Offers, htype]

theorem reads_idsOf (attributes : Entries Json) :
    Reads (Legible attributes)
      (fun id => attributes.get? "id" = some (.str id) ∨ Offers attributes id)
      (idsOf attributes) := by
  rw [idsOf_eq]
  exact (reads_ownIds attributes).append (reads_optionIds attributes)

/-- **The ids that are gathered are those in use.** -/
theorem reads_usedIds (e : Editor) :
    Reads (∀ item ∈ e.live, Legible item.attributes) e.InUse e.usedIds := by
  have heach := Reads.each (fun item : Live => reads_idsOf item.attributes) e.live
  rw [usedIds]
  cases hall : e.live.mapM fun item => idsOf item.attributes with
  | error m =>
      rw [hall] at heach
      exact heach
  | ok all =>
      rw [hall] at heach
      cases heach with
      | ids hlegible hids =>
          refine .ids hlegible fun id hid => mem_foldl_addTo.trans ?_
          rw [List.mem_nil_iff, false_or]
          exact hids id hid

/-- None of the values that are gathered is there twice. -/
theorem pairwise_foldl_addTo {values used : List Json}
    (h : used.Pairwise fun v w => v.samePart w = false) :
    (values.foldl addTo used).Pairwise fun v w => v.samePart w = false := by
  induction values generalizing used with
  | nil => exact h
  | cons v values ih =>
      refine ih ?_
      unfold addTo
      split
      case isTrue => exact h
      case isFalse hnew =>
        rw [Bool.not_eq_true, List.any_eq_false] at hnew
        exact List.pairwise_append.mpr ⟨h, List.pairwise_singleton _ _, by simpa using hnew⟩

theorem pairwise_usedIds {used : List Json} (h : e.usedIds = .ok used) :
    used.Pairwise fun v w => v.samePart w = false := by
  rw [usedIds] at h
  cases hall : e.live.mapM fun item => idsOf item.attributes with
  | error m => rw [hall] at h; cases h
  | ok all =>
      rw [hall] at h
      obtain rfl := Except.ok.inj h
      exact pairwise_foldl_addTo List.Pairwise.nil

/-! ### Counting -/

/-- Counting on from a number to the first one that gives an id which is not in use: the ids that
are tried on the way, the free one among them, and its number. -/
inductive CountsOn (used : List Json) (stem : String) : Nat → List String → Nat → Prop
  | free {n : Nat} (hfree : .str (numbered stem n) ∉ used) :
      CountsOn used stem n [numbered stem n] n
  | taken {n m : Nat} {tried : List String} (htaken : .str (numbered stem n) ∈ used)
      (hrest : CountsOn used stem (n + 1) tried m) :
      CountsOn used stem n (numbered stem n :: tried) m

theorem exists_countsOn {used : List Json} {start k : Nat}
    (htaken : ∀ m < k, .str (numbered stem (m + start)) ∈ used)
    (hfree : .str (numbered stem (k + start)) ∉ used) :
    ∃ tried, CountsOn used stem start tried (k + start) ∧ tried.length = k + 1 := by
  induction k generalizing start with
  | zero =>
      rw [Nat.zero_add] at hfree ⊢
      exact ⟨_, .free hfree, rfl⟩
  | succ k ih =>
      have hshift (m : Nat) : m + (start + 1) = m + 1 + start := by omega
      have hrest (m : Nat) (hm : m < k) : .str (numbered stem (m + (start + 1))) ∈ used :=
        hshift m ▸ htaken (m + 1) (by omega)
      obtain ⟨tried, hcount, hlength⟩ := ih hrest (hshift k ▸ hfree)
      refine ⟨numbered stem start :: tried, ?_, congrArg (· + 1) hlength⟩
      rw [← hshift]
      exact .taken (Nat.zero_add start ▸ htaken 0 k.succ_pos) hcount

/-- **An id is made up by counting to the least number that is free.**  Where the ids of all items
can be read, the count from one comes to its end after no more tries than there are ids in use and
one more, at the least number whose id no item and no option of a checkbox group has; that id is
the one that is made up.  Where the ids of one item cannot be read, no id is made up. -/
theorem generateId_counts (e : Editor) (stem : String) :
    ((∀ item ∈ e.live, Legible item.attributes) →
      ∃ used tried n, e.usedIds = .ok used ∧ (used.Pairwise fun v w => v.samePart w = false) ∧
        (∀ id ≠ "", .str id ∈ used ↔ e.InUse id) ∧
        CountsOn used stem 1 tried n ∧ tried.length ≤ used.length + 1 ∧
        IsLeast { n | 1 ≤ n ∧ ¬e.InUse (numbered stem n) } n ∧
        e.generateId stem = .ok (numbered stem n)) ∧
    ((∃ item ∈ e.live, ¬Legible item.attributes) → e.generateId stem = .error .kind) := by
  have hreads := reads_usedIds e
  cases hused : e.usedIds with
  | error m =>
      rw [hused] at hreads
      cases hreads with
      | misfit hnot => exact ⟨fun h => absurd h hnot, fun _ => by rw [generateId, hused]; rfl⟩
  | ok used =>
      rw [hused] at hreads
      cases hreads with
      | ids hlegible hids =>
          have hall : ¬∃ item ∈ e.live, ¬Legible item.attributes := by
            rintro ⟨item, hitem, hnot⟩
            exact hnot (hlegible item hitem)
          refine ⟨fun _ => ?_, fun h => absurd h hall⟩
          obtain ⟨k, hk, hid, hfree, hbefore⟩ := generateId_first hused stem
          obtain ⟨tried, hcount, hlength⟩ := exists_countsOn hbefore hfree
          refine ⟨used, tried, k + 1, rfl, pairwise_usedIds hused, hids, hcount, by omega,
            ⟨⟨by omega, ?_⟩, ?_⟩, hid⟩
          · rwa [← hids _ (numbered_ne_empty stem _)]
          · rintro n ⟨hpos, hnot⟩
            rw [← hids _ (numbered_ne_empty stem _)] at hnot
            obtain ⟨m, rfl⟩ := Nat.exists_eq_add_of_le' hpos
            by_contra hlt
            exact hnot (hbefore m (by omega))

/-- A question and an option of a group have the first two numbers, and a question that stands
nowhere, since its position is none, has the third. -/
theorem generateId_counts_pastAdrift :
    let edits : List Edit :=
      [.add (.obj [("type", .str "line"), ("id", .str "q_1")]) none (.str "items") .last,
        .add (.obj [("type", .str "checkgroup"), ("id", .str "g"),
          ("choices", .arr [.obj [("q_2", .str "Two")], .int 7])]) none (.str "items") .last,
        .add (.obj [("type", .str "line"), ("id", .str "q_3")]) none (.str "items") (.at (2 ^ 63))]
    let e := after edits { version := .int 1 }
    (∀ item ∈ e.live, Legible item.attributes) ∧ e.generateId "q" = .ok "q_4" ∧
      ∃ used tried n, e.usedIds = .ok used ∧ CountsOn used "q" 1 tried n ∧
        tried.length ≤ used.length + 1 ∧ IsLeast { n | 1 ≤ n ∧ ¬e.InUse (numbered "q" n) } n ∧
        e.generateId "q" = .ok (numbered "q" n) := by
  intro edits e
  have hlegible : ∀ item ∈ e.live, Legible item.attributes := by
    have hlive : e.live.map Live.attributes =
        [[("type", .str "line"), ("id", .str "q_1")],
          [("type", .str "checkgroup"), ("id", .str "g"),
            ("choices", .arr [.obj [("q_2", .str "Two")], .int 7])],
          [("type", .str "line"), ("id", .str "q_3")]] := rfl
    rw [← List.forall_mem_map (f := Live.attributes) (P := Legible), hlive]
    simp [Legible, LegibleId, LegibleChoices, Entries.get?_cons, Json.number?]
  obtain ⟨used, tried, n, hused, -, -, hcount, hlength, hleast, hid⟩ :=
    (generateId_counts e "q").1 hlegible
  exact ⟨hlegible, by decide +kernel, used, tried, n, hused, hcount, hlength, hleast, hid⟩

/-- A number in the place of the choices keeps every id from being made up, although the ids of all
items are texts and the first number is free. -/
theorem generateId_numberChoices :
    let edits : List Edit :=
      [.add (.obj [("type", .str "checkgroup"), ("id", .str "g"), ("choices", .int 5)])
        none (.str "items") .last]
    let e := after edits { version := .int 1 }
    Opened { version := .int 1 } ∧
      (∀ item ∈ e.live, item.attributes.get? "id" = some (.str "g")) ∧
      ¬e.InUse (numbered "q" 1) ∧ e.generateId "q" = .error .kind := by
  intro edits e
  have hlive : e.live = [⟨0, [("type", .str "checkgroup"), ("id", .str "g"), ("choices", .int 5)],
      .top⟩] := rfl
  refine ⟨.empty _, ?_, ?_, rfl⟩
  · simp [hlive, Entries.get?_cons]
  · have hid : "g" ≠ numbered "q" 1 := by decide
    simp [InUse, Offers, hlive, Entries.get?_cons, hid]

end Questionnaire.Editor
