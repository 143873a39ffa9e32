/-
The two spellings of an equality test.

A text `id/value` and an object `{id: value}` ask for the same, so that one may stand for the other
wherever a condition stands: `ofJson_of_respelled`.  It does not matter how deep that is, or what
else stands around it, since both spellings stand as operands.

One thing can go wrong.  The ids that are let through are words of letters, digits, underscore and
hyphen, and `and`, `or` and `not` are among them; but as the name of a member such a word is an
operator.  An item with one of these three ids can be asked for as a text only.  For every other id
the spellings agree, and for these three they never do: `spellings_agree`.
-/
import Questionnaire.Condition
import Questionnaire.Proofs.Document.Charset
import Mathlib.Logic.Relation

namespace Questionnaire

namespace Condition

variable {id value : String} {c c' v w : Json} {before after : Entries Json} {op : Operator}

/-- One test of an id is spelled as an object instead of a text, somewhere in a condition: it is
the condition itself, the operand of `not`, or an element of the list under `and` or `or`. -/
inductive Respells (id : String) : Json → Json → Prop
  | test (value : String) : Respells id (.str (id ++ "/" ++ value)) (.obj [(id, .str value)])
  | operand {c c' : Json} (before after : Entries Json) (h : Respells id c c') :
      Respells id (.obj (before ++ (Operator.not.name, c) :: after))
        (.obj (before ++ (Operator.not.name, c') :: after))
  | element {c c' : Json} {op : Operator} (hop : op ≠ .not) (before after : Entries Json)
      (front back : List Json) (h : Respells id c c') :
      Respells id (.obj (before ++ (op.name, .arr (front ++ c :: back)) :: after))
        (.obj (before ++ (op.name, .arr (front ++ c' :: back)) :: after))

/-- Any number of tests of an id are spelled as objects instead of texts. -/
def Respelled (id : String) : Json → Json → Prop := Relation.ReflTransGen (Respells id)

/-! ### Reading an object -/

theorem Operator.name_inj {op op' : Operator} : op.name = op'.name ↔ op = op' := by
  cases op <;> cases op' <;> simp [Operator.name]

theorem isOperator_name (op : Operator) : isOperator op.name = true := by
  cases op <;> simp [isOperator, Operator.name]

theorem exists_operator (h : isOperator id = true) : ∃ op : Operator, id = op.name := by
  simp only [isOperator, Bool.or_eq_true, decide_eq_true_eq] at h
  obtain (rfl | rfl) | rfl := h
  · exact ⟨.and, rfl⟩
  · exact ⟨.or, rfl⟩
  · exact ⟨.not, rfl⟩

/-- Of a value under an operator it matters whether it stands as an operand, and as which. -/
theorem ofOperator_congr (hoperand : isOperand v = isOperand w)
    (hof : ofOperand op v = ofOperand op w) (other : Operator) :
    ofOperator other (before ++ (op.name, v) :: after) =
      ofOperator other (before ++ (op.name, w) :: after) := by
  induction before with
  | nil =>
      by_cases h : op = other
      · subst h
        simp only [List.nil_append, ofOperator, hoperand, hof]
      · simp only [List.nil_append, ofOperator, Operator.name_inj, if_neg h]
  | cons m ms ih =>
      obtain ⟨name, x⟩ := m
      simp only [List.cons_append, ofOperator, ih]

theorem ofFirstMember_operator :
    ofFirstMember (before ++ (op.name, v) :: after) = ofFirstMember (before ++ after) := by
  induction before with
  | nil => simp [ofFirstMember, isOperator_name]
  | cons m ms ih =>
      obtain ⟨name, x⟩ := m
      simp only [List.cons_append, ofFirstMember, ih]

theorem ofJson_congr (hoperand : isOperand v = isOperand w)
    (hof : ofOperand op v = ofOperand op w) :
    ofJson (.obj (before ++ (op.name, v) :: after)) =
      ofJson (.obj (before ++ (op.name, w) :: after)) := by
  simp only [ofJson, ofOperator_congr hoperand hof, ofFirstMember_operator]

theorem ofAll_eq_map (vs : List Json) : ofAll vs = vs.map ofJson := by
  induction vs with
  | nil => simp only [ofAll, List.map_nil]
  | cons v vs ih => simp only [ofAll, ih, List.map_cons]

/-! ### Both spellings -/

theorem splitSlash?_append (h : '/' ∉ id.toList) :
    splitSlash? (id ++ "/" ++ value) = some (id, value) := by
  have hslash : (id ++ "/" ++ value).toList = id.toList ++ '/' :: value.toList := by simp
  have hall : ∀ c ∈ id.toList, (c ≠ '/' : Bool) = true := by
    intro c hc
    simp only [decide_eq_true_eq]
    rintro rfl
    exact h hc
  simp only [splitSlash?, hslash, List.dropWhile_append_of_pos hall,
    List.takeWhile_append_of_pos hall]
  simp

theorem ofJson_text (h : '/' ∉ id.toList) :
    ofJson (.str (id ++ "/" ++ value)) = .equals id (.str value) := by
  simp only [ofJson, splitSlash?_append h]

theorem ofJson_member (h : isOperator id = false) (v : Json) :
    ofJson (.obj [(id, v)]) = .equals id v := by
  have hname : ∀ op : Operator, id ≠ op.name := by
    intro op hid
    rw [hid, isOperator_name] at h
    cases h
  simp [ofJson, ofOperator, hname, ofFirstMember, h]

theorem isOperand_text : isOperand (.str (id ++ "/" ++ value)) = true := by
  have hne : id ++ "/" ++ value ≠ "" := by
    intro h
    simpa using congrArg String.toList h
  simp [isOperand, hne]

/-- **Whatever spelling a test has, and wherever it stands, it is the same test.** -/
theorem ofJson_of_respells (hslash : '/' ∉ id.toList) (hid : isOperator id = false)
    (h : Respells id c c') : isOperand c = isOperand c' ∧ ofJson c = ofJson c' := by
  induction h with
  | test value => exact ⟨isOperand_text, by rw [ofJson_text hslash, ofJson_member hid]⟩
  | operand before after _ ih =>
      exact ⟨rfl, ofJson_congr ih.1 (by simp only [ofOperand, ih.2])⟩
  | @element c c' op hop before after front back _ ih =>
      have hlist : ofAll (front ++ c :: back) = ofAll (front ++ c' :: back) := by
        simp only [ofAll_eq_map, List.map_append, List.map_cons, ih.2]
      refine ⟨rfl, ofJson_congr rfl ?_⟩
      cases op with
      | not => exact absurd rfl hop
      | and | or => simp only [ofOperand, hlist]

theorem ofJson_of_respelled (hslash : '/' ∉ id.toList) (hid : isOperator id = false)
    (h : Respelled id c c') : ofJson c = ofJson c' := by
  induction h with
  | refl => rfl
  | tail _ hstep ih => exact ih.trans (ofJson_of_respells hslash hid hstep).2

/-- The name of an operator with a value is no test of an answer, whatever the value is. -/
theorem exists_differing (op : Operator) (value : String) :
    ∃ a : Answers, evaluate (.obj [(op.name, .str value)]) a ≠
      evaluate (.str (op.name ++ "/" ++ value)) a := by
  have htext : ofJson (.str (op.name ++ "/" ++ value)) = .equals op.name (.str value) :=
    ofJson_text (by cases op <;> decide)
  by_cases hempty : value = ""
  · -- the operand counts as absent, so that nothing is asked for
    subst hempty
    refine ⟨[], ?_⟩
    rw [evaluate, evaluate, htext]
    cases op <;> simp [ofJson, ofOperator, isOperand, Operator.name, ofFirstMember, isOperator,
      holds, Entries.get?]
  by_cases hnot : op = .not
  · -- what has to be left unmet is no test of this id
    subst hnot
    refine ⟨[], ?_⟩
    rw [evaluate, evaluate, htext]
    cases hsplit : splitSlash? value <;>
      simp [ofJson, ofOperator, ofOperand, isOperand, Operator.name, hempty, hsplit, holds,
        Entries.get?]
  · -- a text is no list of conditions
    refine ⟨[(op.name, .str value)], ?_⟩
    rw [evaluate, evaluate, htext]
    cases op with
    | not => exact absurd rfl hnot
    | and | or =>
        simp [ofJson, ofOperator, ofOperand, isOperand, Operator.name, hempty, holds,
          Entries.get?_cons, strictEqual, Json.equal]

/-! ### The ids that are let through -/

theorem slash_notMem_of_isId (h : Validation.isId id = true) : '/' ∉ id.toList := by
  obtain ⟨plain, hplain, hid⟩ := Validation.isId_iff.mp h
  have hnone : '/' ∉ plain.toList := by
    intro hmem
    exact absurd (hplain.2 _ hmem) (by decide)
  rcases hid with rfl | rfl
  · exact hnone
  · simpa using hnone

/-- Tests of an id mean the same in both spellings just if the id is no operator. -/
theorem respelled_iff (h : Validation.isId id = true) :
    (∀ c c', Respelled id c c' → ∀ a, evaluate c' a = evaluate c a) ↔ isOperator id = false := by
  constructor
  · intro hsame
    by_contra hop
    obtain ⟨op, rfl⟩ := exists_operator (by simpa using hop)
    obtain ⟨a, hne⟩ := exists_differing op "v"
    exact hne (hsame _ _ (.single (.test "v")) a)
  · intro hop c c' hc a
    rw [evaluate, evaluate, ofJson_of_respelled (slash_notMem_of_isId h) hop hc]

/-- **The two spellings of a test mean the same.**  Let an id be let through by the check and be no
operator.  Then a condition in which any number of tests of it, at any depth, are spelled as objects
instead of texts comes out the same for all answers, and asks for the same ids.  So an item of a
document without findings can be asked for in either form, unless its id is one of `and`, `or` and
`not`, and only then. -/
theorem spellings_agree :
    (∀ id, Validation.isId id = true → isOperator id = false → ∀ c c', Respelled id c c' →
      (∀ a, evaluate c' a = evaluate c a) ∧ referencedIds c' = referencedIds c) ∧
    ∀ d : Document, d.issues = .ok [] → ∀ n ∈ d.outline, ∀ id, Validation.Carries n.item id →
      ((∀ c c', Respelled id c c' → ∀ a, evaluate c' a = evaluate c a) ↔
        isOperator id = false) := by
  constructor
  · intro id hid hop c c' hc
    refine ⟨(respelled_iff hid).mpr hop c c' hc, ?_⟩
    rw [referencedIds, referencedIds, ofJson_of_respelled (slash_notMem_of_isId hid) hop hc]
  · intro d hd n hn id hcarries
    obtain ⟨found, hfound, hexact⟩ := Validation.exact_issues (Validation.checkable_of_issues hd)
    obtain rfl : found = [] := Except.ok.inj (hfound.symm.trans hd)
    have hsound : Validation.Sound d := hexact.eq_nil_iff.mp rfl
    exact respelled_iff (hsound.wellFormed (id, n.handle)
      (List.mem_flatMap.mpr ⟨n, hn, List.mem_map_of_mem hcarries.mem_written⟩))

/-- A question under yes that is asked for by its id. -/
def asking : Document :=
  ⟨1, [.yesNo ⟨"q", "", false, .null⟩ [.line ⟨"a-1", "", false, .null⟩ none]
    [.info "" (.obj [("a-1", .str "x")])]]⟩

/-- Two tests are spelled anew, one of them under `not`; the value of the last member is no
condition and stays. -/
theorem spellings_agree_nested :
    let rest : Entries Json := [("a-1", .str "a-1/x")]
    let c : Json := .obj (("or", .arr [.str ("a-1" ++ "/" ++ "x"),
      .obj [("not", .str ("a-1" ++ "/" ++ "y/z"))]]) :: rest)
    let c' : Json := .obj (("or", .arr [.obj [("a-1", .str "x")],
      .obj [("not", .obj [("a-1", .str "y/z")])]]) :: rest)
    (Validation.isId "a-1" = true ∧ isOperator "a-1" = false ∧ Respelled "a-1" c c' ∧
      (∀ a, evaluate c' a = evaluate c a) ∧ referencedIds c' = referencedIds c) ∧
    asking.issues = .ok [] ∧
      ∀ n ∈ asking.outline, ∀ id, Validation.Carries n.item id →
        ((∀ c c', Respelled id c c' → ∀ a, evaluate c' a = evaluate c a) ↔
          isOperator id = false) := by
  intro rest c c'
  have hid : Validation.isId "a-1" = true := by decide
  have hop : isOperator "a-1" = false := by decide
  have hor : Operator.or ≠ .not := by decide
  have hfirst : Respells "a-1" c _ := .element hor [] rest [] [_] (.test "x")
  have hsecond : Respells "a-1" _ c' :=
    .element hor [] rest [_] [] (.operand [] [] (.test "y/z"))
  have hc : Respelled "a-1" c c' := .tail (.single hfirst) hsecond
  have hissues : asking.issues = .ok [] := eq_ok_of_toOption (by decide +kernel)
  exact ⟨⟨hid, hop, hc, spellings_agree.1 "a-1" hid hop c c' hc⟩, hissues,
    spellings_agree.2 asking hissues⟩

/-- A document without findings whose question can be asked for as a text, but not as an object. -/
theorem conjunction_for_id :
    let d : Document := ⟨1, [.line ⟨"and", "Q", false, .null⟩ none]⟩
    let a : Answers := [("and", .str "v")]
    d.issues = .ok [] ∧ Validation.isId "and" = true ∧
      Respelled "and" (.str ("and" ++ "/" ++ "v")) (.obj [("and", .str "v")]) ∧
      evaluate (.str ("and" ++ "/" ++ "v")) a = true ∧
      evaluate (.obj [("and", .str "v")]) a = false := by
  intro d a
  refine ⟨eq_ok_of_toOption (by decide +kernel), by decide, .single (.test "v"), ?_, ?_⟩
  · rw [evaluate, ofJson_text (by decide)]
    rfl
  · simp [evaluate, ofJson, ofOperator, ofOperand, isOperand, Operator.name, holds]

end Condition

end Questionnaire
