/-
Negation pushed inward.

Conditions are built from leaves with lists under `and` and `or` and with `not`, `Formula`.  A
negation in front of a list turns into the other list with a negation in front of each element, one
in front of a negation takes it away, and so on until negation stands in front of leaves only,
`settled`.  What is written then is met by the same answers, `evaluate_settled`.

That is no law of Boolean algebra alone.  An operand that is false, zero or the empty text is as
good as not written, so that `not` in front of it leaves an object that asks for nothing; and it is
met all the same, because such a leaf alone never is, `holds_negated`.  Null breaks the law, for it
is met with and without `not`, and a record that names an operator does not stand for itself; these
two are no leaves.
-/
import Questionnaire.Condition

namespace Questionnaire

namespace Condition

/-- A value that is neither null nor a record with an operator among its names. -/
def IsLeaf : Json → Prop
  | .null => False
  | .obj ms => ∀ m ∈ ms, isOperator m.1 = false
  | _ => True

/-- A condition by the way it is built. -/
inductive Formula
  | leaf (v : Json) (h : IsLeaf v)
  | all (parts : List Formula)
  | any (parts : List Formula)
  | not (part : Formula)

namespace Formula

mutual

/-- The value that writes a condition. -/
def write : Formula → Json
  | .leaf v _ => v
  | .all parts => .obj [("and", .arr (writeEach parts))]
  | .any parts => .obj [("or", .arr (writeEach parts))]
  | .not part => .obj [("not", write part)]

def writeEach : List Formula → List Json
  | [] => []
  | part :: parts => write part :: writeEach parts

end

mutual

/-- The condition with negation in front of leaves only. -/
def settled : Formula → Formula
  | .leaf v h => .leaf v h
  | .all parts => .all (settledEach parts)
  | .any parts => .any (settledEach parts)
  | .not part => denied part

/-- The same for the negation of a condition. -/
def denied : Formula → Formula
  | .leaf v h => .not (.leaf v h)
  | .all parts => .any (deniedEach parts)
  | .any parts => .all (deniedEach parts)
  | .not part => settled part

def settledEach : List Formula → List Formula
  | [] => []
  | part :: parts => settled part :: settledEach parts

def deniedEach : List Formula → List Formula
  | [] => []
  | part :: parts => denied part :: deniedEach parts

end

mutual

/-- Negation stands in front of leaves only. -/
def Settled : Formula → Prop
  | .leaf _ _ => True
  | .all parts | .any parts => EachSettled parts
  | .not part => ∃ v h, part = .leaf v h

def EachSettled : List Formula → Prop
  | [] => True
  | part :: parts => Settled part ∧ EachSettled parts

end

/-! ### What is written -/

theorem write_ne_null (f : Formula) : f.write ≠ .null := by
  cases f with
  | leaf v h =>
      simp only [write]
      rintro rfl
      exact h
  | all | any | not => simp [write]

/-- What only a leaf writes is written by a leaf. -/
theorem leaf_eq {v : Json} (hv : IsLeaf v) {f : Formula} (h : v = f.write) : .leaf v hv = f := by
  cases f with
  | leaf w hw =>
      simp only [write] at h
      subst h
      rfl
  | all | any | not =>
      simp only [write] at h
      subst h
      have hno := hv _ (List.mem_singleton_self _)
      simp [isOperator] at hno

mutual

/-- A condition is built in one way only. -/
theorem write_inj {f g : Formula} (h : f.write = g.write) : f = g := by
  cases f with
  | leaf v hv => exact leaf_eq hv (by simpa only [write] using h)
  | all fs =>
      cases g with
      | leaf w hw => exact (leaf_eq hw (by simpa only [write] using h.symm)).symm
      | all gs =>
          have hparts : fs = gs := writeEach_inj (by simpa [write] using h)
          rw [hparts]
      | any | not => simp [write] at h
  | any fs =>
      cases g with
      | leaf w hw => exact (leaf_eq hw (by simpa only [write] using h.symm)).symm
      | any gs =>
          have hparts : fs = gs := writeEach_inj (by simpa [write] using h)
          rw [hparts]
      | all | not => simp [write] at h
  | not f =>
      cases g with
      | leaf w hw => exact (leaf_eq hw (by simpa only [write] using h.symm)).symm
      | not g =>
          have hpart : f = g := write_inj (by simpa [write] using h)
          rw [hpart]
      | all | any => simp [write] at h

theorem writeEach_inj {fs gs : List Formula} (h : writeEach fs = writeEach gs) : fs = gs := by
  cases fs <;> cases gs <;> simp only [writeEach, List.cons.injEq, reduceCtorEq] at h
  · rfl
  · rw [write_inj h.1, writeEach_inj h.2]

end

end Formula

variable {answers : Answers}

theorem ofJson_all (vs : List Json) : ofJson (.obj [("and", .arr vs)]) = .all (ofAll vs) := by
  simp [ofJson, ofOperator, ofOperand, isOperand, Operator.name]

theorem ofJson_any (vs : List Json) : ofJson (.obj [("or", .arr vs)]) = .any (ofAll vs) := by
  simp [ofJson, ofOperator, ofOperand, isOperand, Operator.name]

/-- A value that does not stand as an operand is met by nothing, unless it is null. -/
theorem ofJson_of_not_isOperand {v : Json} (hnull : v ≠ .null) (h : isOperand v = false) :
    ofJson v = .never := by
  cases v with
  | null => exact absurd rfl hnull
  | str s =>
      have hempty : s = "" := by simpa [isOperand] using h
      subst hempty
      simp [ofJson, splitSlash?]
  | arr | obj => simp [isOperand] at h
  | bool | int | float => simp [ofJson]

/-- **A negation is met just if what it negates is not**, null apart. -/
theorem holds_negated {v : Json} (hnull : v ≠ .null) :
    holds answers (ofJson (.obj [("not", v)])) = !holds answers (ofJson v) := by
  cases h : isOperand v with
  | true => simp [ofJson, ofOperator, ofOperand, Operator.name, h, holds]
  | false =>
      rw [ofJson_of_not_isOperand hnull h]
      simp [ofJson, ofOperator, Operator.name, h, ofFirstMember, isOperator, holds]

namespace Formula

/-! ### The law -/

mutual

theorem holds_settled (f : Formula) :
    holds answers (ofJson f.settled.write) = holds answers (ofJson f.write) ∧
      holds answers (ofJson f.denied.write) = !holds answers (ofJson f.write) := by
  cases f with
  | leaf v h =>
      simp only [settled, denied, write]
      exact ⟨trivial, holds_negated (write_ne_null (.leaf v h))⟩
  | all parts =>
      have hparts := holds_settledEach parts
      simp only [settled, denied, write, ofJson_all, ofJson_any, holds, hparts]
      exact ⟨trivial, trivial⟩
  | any parts =>
      have hparts := holds_settledEach parts
      simp only [settled, denied, write, ofJson_all, ofJson_any, holds, hparts]
      exact ⟨trivial, trivial⟩
  | not part =>
      have hpart := holds_settled part
      simp only [settled, denied, write, holds_negated (write_ne_null part), hpart, Bool.not_not]
      exact ⟨trivial, trivial⟩

theorem holds_settledEach (parts : List Formula) :
    (holdsAll answers (ofAll (writeEach (settledEach parts))) =
        holdsAll answers (ofAll (writeEach parts)) ∧
      holdsAny answers (ofAll (writeEach (settledEach parts))) =
        holdsAny answers (ofAll (writeEach parts))) ∧
    holdsAll answers (ofAll (writeEach (deniedEach parts))) =
        !holdsAny answers (ofAll (writeEach parts)) ∧
      holdsAny answers (ofAll (writeEach (deniedEach parts))) =
        !holdsAll answers (ofAll (writeEach parts)) := by
  cases parts with
  | nil => simp [settledEach, deniedEach, writeEach, ofAll, holdsAll, holdsAny]
  | cons part parts =>
      have hpart := holds_settled part
      have hparts := holds_settledEach parts
      simp only [settledEach, deniedEach, writeEach, ofAll, holdsAll, holdsAny, hpart, hparts,
        Bool.not_and, Bool.not_or]
      exact ⟨⟨trivial, trivial⟩, trivial, trivial⟩

end

mutual

theorem settled_settled (f : Formula) : f.settled.Settled ∧ f.denied.Settled := by
  cases f with
  | leaf v h => exact ⟨trivial, v, h, rfl⟩
  | all parts | any parts => exact settled_settledEach parts
  | not part => exact (settled_settled part).symm

theorem settled_settledEach (parts : List Formula) :
    EachSettled (settledEach parts) ∧ EachSettled (deniedEach parts) := by
  cases parts with
  | nil => exact ⟨trivial, trivial⟩
  | cons part parts =>
      have hpart := settled_settled part
      have hparts := settled_settledEach parts
      exact ⟨⟨hpart.1, hparts.1⟩, hpart.2, hparts.2⟩

end

/-- The negations of conditions are settled one by one. -/
theorem settledEach_map_not (parts : List Formula) :
    settledEach (parts.map .not) = deniedEach parts := by
  induction parts with
  | nil => rfl
  | cons part parts ih => simp only [List.map_cons, settledEach, settled, ih, deniedEach]

/-- **Negation can be pushed inward.**  Settling a condition goes by three rules, for a negation in
front of a list of either kind and in front of another negation, and ends with negation in front of
leaves only.  It is met by the same answers as before.  What a value is built of can be told from
it, so that settling is a matter of the value. -/
theorem evaluate_settled :
    (∀ f g : Formula, f.write = g.write → f = g) ∧
    (∀ parts, settled (.not (.all parts)) = settled (.any (parts.map .not))) ∧
    (∀ parts, settled (.not (.any parts)) = settled (.all (parts.map .not))) ∧
    (∀ f, settled (.not (.not f)) = settled f) ∧
    ∀ f : Formula, f.settled.Settled ∧
      ∀ answers, evaluate f.settled.write answers = evaluate f.write answers := by
  refine ⟨fun _ _ => write_inj, fun parts => ?_, fun parts => ?_, fun f => ?_,
    fun f => ⟨?_, fun answers => ?_⟩⟩
  · simp only [settled, denied, settledEach_map_not]
  · simp only [settled, denied, settledEach_map_not]
  · simp only [settled, denied]
  · exact (settled_settled f).1
  · exact (holds_settled f).1

example : evaluate (.obj [("not", .null)]) [] = evaluate .null [] := by cbv

/-- Leaves that are no operands, a test and an empty list, under negations. -/
def tangled : Formula :=
  .not (.all [.leaf (.bool false) trivial,
    .not (.any [.leaf (.int 0) trivial, .leaf (.str "q/yes") trivial]), .all [],
    .not (.not (.leaf (.str "") trivial))])

theorem evaluate_settled_tangled :
    tangled.settled.write = .obj [("or", .arr [.obj [("not", .bool false)],
      .obj [("or", .arr [.int 0, .str "q/yes"])], .obj [("or", .arr [])],
      .obj [("not", .str "")]])] ∧
    (∀ g : Formula, tangled.write = g.write → tangled = g) ∧ tangled.settled.Settled ∧
      ∀ answers, evaluate tangled.settled.write answers = evaluate tangled.write answers := by
  obtain ⟨hinj, -, -, -, hsettled⟩ := evaluate_settled
  refine ⟨?_, hinj tangled, hsettled tangled⟩
  simp only [tangled, settled, denied, settledEach, deniedEach, write, writeEach]

end Formula

end Condition

end Questionnaire
