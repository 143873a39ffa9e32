/-
What writing a document leaves out.

A field that says nothing is not written, so that reading the text again cannot tell it
from one that was never there.  For most fields that is the same: a text that is missing
counts for the empty text, and a truth value for false.  It is not the same for a
condition that is false or the empty text, which becomes null, and for an optional text
that is empty, which becomes none.  `Document.settled` is the document after these two
changes.  Nothing else of it is touched, and it is written as the same object.
-/
import Questionnaire.Document.Writer

namespace Questionnaire

/-- A value that says nothing is taken for null. -/
def Json.settled : Json → Json
  | .bool false => .null
  | .str "" => .null
  | v => v

/-- The empty text is taken for none. -/
def settledText (text : Option String) : Option String := text.filter (· ≠ "")

def Question.settled (q : Question) : Question := { q with cond := q.cond.settled }

def Tip.settled (t : Tip) : Tip :=
  { t with
    severity := settledText t.severity
    why := settledText t.why
    name := settledText t.name
    cond := t.cond.settled }

def GroupChoices.settled (group : GroupChoices) : GroupChoices :=
  { group with initial := settledText group.initial }

namespace Item

mutual

/-- An item without conditions and optional texts that say nothing. -/
def settled : Item → Item
  | .block text cond items => .block text cond.settled (allSettled items)
  | .info text cond => .info text cond.settled
  | .tip t => .tip t.settled
  | .spacer => .spacer
  | .line q placeholder => .line q.settled (settledText placeholder)
  | .box q placeholder => .box q.settled (settledText placeholder)
  | .check q => .check q.settled
  | .yesNo q yes no => .yesNo q.settled (allSettled yes) (allSettled no)
  | .radio q choices => .radio q.settled choices
  | .radioGroup q group => .radioGroup q.settled group.settled
  | .checkGroup q group => .checkGroup q.settled group.settled
  | .unknown type source => .unknown type source

/-- The same for a list of items. -/
def allSettled : List Item → List Item
  | [] => []
  | item :: items => settled item :: allSettled items

end

/-- The optional texts of an item. -/
def optionalTexts : Item → List (Option String)
  | .line _ placeholder | .box _ placeholder => [placeholder]
  | .tip t => [t.severity, t.why, t.name]
  | .radioGroup _ group | .checkGroup _ group => [group.initial]
  | _ => []

/-- An item whose condition says something, if there is one, and whose optional texts do. -/
def Tidy (item : Item) : Prop :=
  item.cond ≠ .bool false ∧ item.cond ≠ .str "" ∧ ∀ text ∈ item.optionalTexts, text ≠ some ""

end Item

namespace Document

/-- A document without conditions and optional texts that say nothing. -/
def settled (d : Document) : Document := { d with items := Item.allSettled d.items }

/-- A document with tidy items only, wherever they stand. -/
def Tidy (d : Document) : Prop := ∀ n ∈ d.outline, n.item.Tidy

end Document

/-! ### Values -/

theorem Json.settled_eq (v : Json) : v.settled = if v.speaks then v else .null := by
  unfold Json.settled
  split
  case h_1 => rfl
  case h_2 => rfl
  case h_3 hfalse hempty =>
    cases v with
    | null => rfl
    | bool b =>
        cases b with
        | true => rfl
        | false => exact absurd rfl hfalse
    | str s =>
        have hs : s ≠ "" := fun h => hempty (by rw [h])
        simp [Json.speaks, hs]
    | int n => rfl
    | float x => rfl
    | arr items => rfl
    | obj ms => rfl

theorem Json.settled_eq_self {v : Json} :
    v.settled = v ↔ v ≠ .bool false ∧ v ≠ .str "" := by
  unfold Json.settled
  split
  case h_1 => simp
  case h_2 => simp
  case h_3 hfalse hempty => exact ⟨fun _ => ⟨hfalse, hempty⟩, fun _ => rfl⟩

@[simp] theorem Json.speaks_settled (v : Json) : v.settled.speaks = v.speaks := by
  rw [Json.settled_eq]
  cases h : v.speaks with
  | true => rw [if_pos rfl, h]
  | false => rfl

theorem settledText_eq_self {text : Option String} : settledText text = text ↔ text ≠ some "" := by
  cases text with
  | none => simp [settledText]
  | some s => by_cases hs : s = "" <;> simp [settledText, Option.filter, hs]

theorem Json.ofText?_settledText (text : Option String) :
    Json.ofText? (settledText text) = (Json.ofText? text).settled := by
  cases text with
  | none => rfl
  | some s =>
      by_cases hs : s = ""
      · subst hs
        rfl
      · simp [settledText, Option.filter, hs, Json.ofText?, Json.settled]

namespace Item

/-! ### What is written -/

/-- A field is written as if it had been settled before. -/
@[simp] theorem field_settled (name : String) (v : Json) : field name v.settled = field name v := by
  cases h : v.speaks with
  | true => rw [Json.settled_eq, if_pos h]
  | false => simp [field, h]

@[simp] theorem isEmpty_allSettled (items : List Item) :
    (allSettled items).isEmpty = items.isEmpty := by
  cases items <;> rfl

theorem questionFields_settled (q : Question) (placeholder : Option String) :
    questionFields q.settled (settledText placeholder) = questionFields q placeholder := by
  simp [questionFields, questionHead, Question.settled, Json.ofText?_settledText]

theorem groupFields_settled (q : Question) (group : GroupChoices) :
    groupFields q.settled group.settled = groupFields q group := by
  simp [groupFields, questionHead, Question.settled, GroupChoices.settled,
    Json.ofText?_settledText]

theorem tipFields_settled (t : Tip) : tipFields t.settled = tipFields t := by
  simp [tipFields, Tip.settled, Json.ofText?_settledText]

mutual

/-- What is left out does not show in the object that is written. -/
theorem toJson_settled (item : Item) : toJson item.settled = toJson item := by
  cases item with
  | block text cond items =>
      have hitems := allToJson_settled items
      simp only [settled, toJson, field_settled, hitems]
  | info text cond => simp only [settled, toJson, field_settled]
  | tip t => simp only [settled, toJson, tipFields_settled]
  | line q placeholder => simp only [settled, toJson, questionFields_settled]
  | box q placeholder => simp only [settled, toJson, questionFields_settled]
  | check q =>
      have hfields : questionFields q.settled none = questionFields q none :=
        questionFields_settled q none
      simp only [settled, toJson, hfields]
  | yesNo q yes no =>
      have hfields : questionFields q.settled none = questionFields q none :=
        questionFields_settled q none
      have hyes := allToJson_settled yes
      have hno := allToJson_settled no
      simp only [settled, toJson, hfields, isEmpty_allSettled, hyes, hno]
  | radio q choices =>
      simp only [settled, toJson, questionHead, Question.settled, field_settled]
  | radioGroup q group => simp only [settled, toJson, groupFields_settled]
  | checkGroup q group => simp only [settled, toJson, groupFields_settled]
  | spacer | unknown => rfl

/-- The same for a list of items. -/
theorem allToJson_settled (items : List Item) : allToJson (allSettled items) = allToJson items := by
  cases items with
  | nil => rfl
  | cons item items =>
      have hitem := toJson_settled item
      have hitems := allToJson_settled items
      simp only [allSettled, allToJson, hitem, hitems]

end

/-! ### Places -/

mutual

@[simp] theorem size_settled (item : Item) : size item.settled = size item := by
  cases item with
  | block text cond items =>
      have hitems := sizes_allSettled items
      simp only [settled, size, hitems]
  | yesNo q yes no =>
      have hyes := sizes_allSettled yes
      have hno := sizes_allSettled no
      simp only [settled, size, hyes, hno]
  | info | tip | spacer | line | box | check | radio | radioGroup | checkGroup | unknown => rfl

@[simp] theorem sizes_allSettled (items : List Item) : sizes (allSettled items) = sizes items := by
  cases items with
  | nil => rfl
  | cons item items =>
      have hitem := size_settled item
      have hitems := sizes_allSettled items
      simp only [allSettled, sizes, hitem, hitems]

end

end Item

namespace Document

/-- A node with its item settled, in the same place. -/
def Node.settled (n : Node) : Node := { n with item := n.item.settled }

mutual

theorem outlineItem_settled (above : List Nat) (handle : Nat) (item : Item) :
    outlineItem above handle item.settled = (outlineItem above handle item).map Node.settled := by
  cases item with
  | block text cond items =>
      have hitems := outlineItems_allSettled (handle :: above) (handle + 1) items
      simp only [Item.settled, outlineItem, hitems, List.map_cons, Node.settled]
  | yesNo q yes no =>
      have hyes := outlineItems_allSettled (handle :: above) (handle + 1) yes
      have hno := outlineItems_allSettled (handle :: above) (handle + 1 + Item.sizes yes) no
      simp only [Item.settled, outlineItem, Item.sizes_allSettled, hyes, hno, List.map_cons,
        List.map_append, Node.settled]
  | info | tip | spacer | line | box | check | radio | radioGroup | checkGroup | unknown => rfl

theorem outlineItems_allSettled (above : List Nat) (handle : Nat) (items : List Item) :
    outlineItems above handle (Item.allSettled items) =
      (outlineItems above handle items).map Node.settled := by
  cases items with
  | nil => rfl
  | cons item items =>
      have hitem := outlineItem_settled above handle item
      have hitems := outlineItems_allSettled above (handle + item.size) items
      simp only [Item.allSettled, outlineItems, Item.size_settled, hitem, hitems, List.map_append]

end

/-- Every item stays in its place: under the same handle and in the same items. -/
theorem outline_settled (d : Document) : d.settled.outline = d.outline.map Node.settled :=
  outlineItems_allSettled [] 0 d.items

theorem handlesFrom_allSettled (handle : Nat) (items : List Item) :
    handlesFrom handle (Item.allSettled items) = handlesFrom handle items := by
  induction items generalizing handle with
  | nil => rfl
  | cons item items ih => rw [Item.allSettled, handlesFrom, handlesFrom, Item.size_settled, ih]

theorem roots_settled (d : Document) : d.settled.roots = d.roots :=
  handlesFrom_allSettled 0 d.items

/-! ### Tidy documents -/

theorem settled_eq_self_question {q : Question} :
    q.settled = q ↔ q.cond ≠ .bool false ∧ q.cond ≠ .str "" := by
  rw [← Json.settled_eq_self]
  cases q
  simp [Question.settled]

theorem settled_eq_self_group {group : GroupChoices} :
    group.settled = group ↔ group.initial ≠ some "" := by
  rw [← settledText_eq_self]
  cases group
  simp [GroupChoices.settled]

theorem settled_eq_self_tip {t : Tip} :
    t.settled = t ↔ (t.cond ≠ .bool false ∧ t.cond ≠ .str "") ∧ t.severity ≠ some "" ∧
      t.why ≠ some "" ∧ t.name ≠ some "" := by
  rw [← settledText_eq_self, ← settledText_eq_self, ← settledText_eq_self, ← Json.settled_eq_self]
  cases t
  simp only [Tip.settled, Tip.mk.injEq, true_and]
  exact ⟨fun ⟨hseverity, hwhy, hname, hcond⟩ => ⟨hcond, hseverity, hwhy, hname⟩,
    fun ⟨hcond, hseverity, hwhy, hname⟩ => ⟨hseverity, hwhy, hname, hcond⟩⟩

/-- An item that holds no others stays as it is if it is tidy. -/
theorem settled_eq_self_leaf {item : Item}
    (hblock : ∀ text cond items, item ≠ .block text cond items)
    (hyesNo : ∀ q yes no, item ≠ .yesNo q yes no) : item.settled = item ↔ item.Tidy := by
  cases item with
  | block text cond items => exact absurd rfl (hblock text cond items)
  | yesNo q yes no => exact absurd rfl (hyesNo q yes no)
  | info text cond =>
      simp [Item.settled, Item.Tidy, Item.cond, Item.optionalTexts, Json.settled_eq_self]
  | tip t =>
      simp [Item.settled, Item.Tidy, Item.cond, Item.optionalTexts, settled_eq_self_tip, and_assoc]
  | line q placeholder | box q placeholder =>
      simp [Item.settled, Item.Tidy, Item.cond, Item.optionalTexts, Item.question?,
        settled_eq_self_question, settledText_eq_self, and_assoc]
  | check q | radio q choices =>
      simp [Item.settled, Item.Tidy, Item.cond, Item.optionalTexts, Item.question?,
        settled_eq_self_question]
  | radioGroup q group | checkGroup q group =>
      simp [Item.settled, Item.Tidy, Item.cond, Item.optionalTexts, Item.question?,
        settled_eq_self_question, settled_eq_self_group, and_assoc]
  | spacer | unknown => simp [Item.settled, Item.Tidy, Item.cond, Item.optionalTexts]

mutual

theorem settled_eq_self_item (above : List Nat) (handle : Nat) (item : Item) :
    item.settled = item ↔ ∀ n ∈ outlineItem above handle item, n.item.Tidy := by
  cases item with
  | block text cond items =>
      have hitems := settled_eq_self_items (handle :: above) (handle + 1) items
      have hhead : (Item.block text cond items).Tidy ↔ cond.settled = cond := by
        simp [Item.Tidy, Item.cond, Item.optionalTexts, Json.settled_eq_self]
      rw [outlineItem, List.forall_mem_cons, ← hitems, hhead, Item.settled]
      simp
  | yesNo q yes no =>
      have hyes := settled_eq_self_items (handle :: above) (handle + 1) yes
      have hno := settled_eq_self_items (handle :: above) (handle + 1 + Item.sizes yes) no
      have hhead : (Item.yesNo q yes no).Tidy ↔ q.settled = q := by
        simp [Item.Tidy, Item.cond, Item.optionalTexts, Item.question?, settled_eq_self_question]
      rw [outlineItem, List.forall_mem_append, List.forall_mem_cons, ← hyes, ← hno, hhead,
        Item.settled]
      simp [and_assoc]
  | info | tip | spacer | line | box | check | radio | radioGroup | checkGroup | unknown =>
      rw [settled_eq_self_leaf (by simp) (by simp)]
      simp [outlineItem]

theorem settled_eq_self_items (above : List Nat) (handle : Nat) (items : List Item) :
    Item.allSettled items = items ↔ ∀ n ∈ outlineItems above handle items, n.item.Tidy := by
  cases items with
  | nil => simp [Item.allSettled, outlineItems]
  | cons item items =>
      have hitem := settled_eq_self_item above handle item
      have hitems := settled_eq_self_items above (handle + item.size) items
      rw [Item.allSettled, outlineItems, List.forall_mem_append, ← hitem, ← hitems, List.cons.injEq]

end

/-- **Only a tidy document stays as it is.** -/
theorem settled_eq_self (d : Document) : d.settled = d ↔ d.Tidy := by
  rw [Tidy, outline, ← settled_eq_self_items [] 0 d.items]
  cases d
  simp [settled]

/-- A document is written as the same text after it was settled. -/
theorem write_settled (d : Document) (indent : Option String) :
    d.settled.write indent = d.write indent := by
  rw [write, write, toJson, toJson, settled, Item.allToJson_settled]

end Document

end Questionnaire
