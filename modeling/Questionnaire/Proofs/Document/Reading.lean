/-
A document is read back from the object that was written for it.

Every field is looked up under its own name, so that what an item gives is settled field
by field: the fields that were left out are missing, and a missing field reads as what
says nothing.  An unknown item is the exception, since it is written as the value it was
read from and says nothing about its fields.  Reading it again has to give an unknown
item, which is so for every one that was read, `Genuine`, but for no others.
-/
import Questionnaire.Document.Reader
import Questionnaire.Proofs.Document.Settled
import Questionnaire.Proofs.Entries
import Mathlib.Logic.Basic

namespace Questionnaire

namespace Item

/-! ### Fields -/

theorem get?_field (name other : String) (v : Json) :
    (field name v).get? other = if other = name ∧ v.speaks then some v else none := by
  unfold field
  cases h : v.speaks with
  | true => simp [Entries.get?_cons]
  | false => simp

/-- A field that was written or left out reads as the settled value. -/
theorem getD_spoken (v : Json) : ((if v.speaks then some v else none).getD .null) = v.settled := by
  rw [Json.settled_eq]
  cases v.speaks <;> rfl

theorem getD_typed {type name : String} (hname : name ≠ "type") (fields : Entries Json) :
    (typed type fields).getD name = (fields.get? name).getD .null := by
  show (Entries.get? (("type", _) :: fields) name).getD .null = _
  rw [Entries.get?_cons, if_neg hname]

theorem getD_type (type : String) (fields : Entries Json) :
    (typed type fields).getD "type" = .str type := rfl

@[simp] theorem text_settled_str (s : String) : (Json.str s).settled.text = s := by
  by_cases hs : s = ""
  · subst hs
    rfl
  · simp [Json.settled, hs, Json.text, Json.words]

@[simp] theorem truthy_settled_bool (b : Bool) : (Json.bool b).settled.truthy = b := by
  cases b <;> rfl

@[simp] theorem text?_settled_ofText? (text : Option String) :
    (Json.ofText? text).settled.text? = settledText text := by
  rw [← Json.ofText?_settledText]
  cases settledText text <;> rfl

/-- The fields of a question, wherever they stand in an object. -/
theorem readQuestion_of_getD {source : Json} {q : Question}
    (hid : source.getD "id" = (Json.str q.id).settled)
    (htext : source.getD "text" = (Json.str q.text).settled)
    (hrequired : source.getD "required" = (Json.bool q.required).settled)
    (hcond : source.getD "cond" = q.cond.settled) : readQuestion source = q.settled := by
  simp [readQuestion, hid, htext, hrequired, hcond, Question.settled]

theorem readQuestion_questionFields (type : String) (q : Question) (placeholder : Option String)
    (more : Entries Json)
    (hmore : ∀ name ∈ ["id", "text", "required", "cond"], more.get? name = none) :
    readQuestion (typed type (questionFields q placeholder ++ more)) = q.settled := by
  refine readQuestion_of_getD ?_ ?_ ?_ ?_ <;>
    simp [getD_typed, questionFields, questionHead, Entries.get?_append, get?_field, getD_spoken,
      hmore]

theorem readQuestion_groupFields (type : String) (q : Question) (group : GroupChoices) :
    readQuestion (typed type (groupFields q group)) = q.settled := by
  refine readQuestion_of_getD ?_ ?_ ?_ ?_ <;>
    simp [getD_typed, groupFields, questionHead, Entries.get?_append, Entries.get?_cons, get?_field,
      getD_spoken]

theorem readTip_tipFields (type : String) (t : Tip) :
    readTip (typed type (tipFields t)) = t.settled := by
  simp [readTip, getD_typed, tipFields, Entries.get?_append, get?_field, getD_spoken, Tip.settled]

theorem readChoices_toJson (choices : List Choice) :
    readChoices (.arr (choices.map Choice.toJson)) = choices := by
  induction choices with
  | nil => rfl
  | cons c choices ih =>
      rw [readChoices] at ih ⊢
      rw [List.map_cons, List.filterMap_cons, ih]
      rfl

theorem readGroupChoices_toJson (choices : List GroupChoice) :
    readGroupChoices (.arr (choices.map GroupChoice.toJson)) = choices := by
  induction choices with
  | nil => rfl
  | cons c choices ih =>
      rw [readGroupChoices] at ih ⊢
      rw [List.map_cons, List.flatMap_cons, ih]
      rfl

theorem readGroup_groupFields (type : String) (q : Question) (group : GroupChoices) :
    readGroup (typed type (groupFields q group)) = group.settled := by
  have hchoices : (typed type (groupFields q group)).getD "choices" =
      .arr (group.choices.map GroupChoice.toJson) := by
    simp [getD_typed, groupFields, questionHead, Entries.get?_append, Entries.get?_cons, get?_field]
  have hinitial : (typed type (groupFields q group)).getD "defaultChoice" =
      (Json.ofText? group.initial).settled := by
    simp [getD_typed, groupFields, questionHead, Entries.get?_append, Entries.get?_cons, get?_field,
      getD_spoken]
  rw [readGroup, hchoices, hinitial, readGroupChoices_toJson, text?_settled_ofText?,
    GroupChoices.settled]

/-! ### Slots -/

/-- The items under a name are those of the value that is found there. -/
theorem readSlot_eq (name : String) (ms : Entries Json) :
    readSlot name ms = match ms.get? name with
      | some v => readChildren v
      | none => some [] := by
  induction ms with
  | nil => rfl
  | cons m ms ih =>
      obtain ⟨n, v⟩ := m
      rw [readSlot, Entries.get?_cons, ih]
      split <;> rfl

theorem read_typed {type : String} (hblock : type ≠ "block") (hyesNo : type ≠ "yesno")
    (fields : Entries Json) : read (typed type fields) = some (readLeaf (typed type fields)) := by
  rw [typed, read]
  simp only [List.lookup_cons, beq_self_eq_true]
  split
  case h_1 heq => exact absurd (Json.str.inj (Option.some.inj heq)) hblock
  case h_2 heq => exact absurd (Json.str.inj (Option.some.inj heq)) hyesNo
  case h_3 => rfl

theorem read_block (fields : Entries Json) :
    read (typed "block" fields) =
      (readSlot "items" (typed "block" fields).members).bind fun items =>
        some (.block ((typed "block" fields).getD "text").text ((typed "block" fields).getD "cond")
          items) := rfl

theorem read_yesNo (fields : Entries Json) :
    read (typed "yesno" fields) = (readSlot "yes" (typed "yesno" fields).members).bind fun yes =>
      (readSlot "no" (typed "yesno" fields).members).bind fun no =>
        some (.yesNo (readQuestion (typed "yesno" fields)) yes no) := rfl

/-! ### Items that were read -/

mutual

/-- Every unknown item inside is what its source is read as. -/
def Genuine : Item → Prop
  | .block _ _ items => AllGenuine items
  | .yesNo _ yes no => AllGenuine yes ∧ AllGenuine no
  | .unknown type source => read source = some (.unknown type source)
  | _ => True

/-- The same for a list of items. -/
def AllGenuine : List Item → Prop
  | [] => True
  | item :: items => Genuine item ∧ AllGenuine items

end

/-- An item that holds no others is genuine if it was read. -/
theorem genuine_readLeaf {source : Json} {item : Item} (hleaf : readLeaf source = item)
    (hread : read source = some item) : item.Genuine := by
  unfold readLeaf at hleaf
  split at hleaf
  case h_10 =>
    subst hleaf
    exact hread
  all_goals
    subst hleaf
    trivial

mutual

/-- What is read from a value is genuine. -/
theorem genuine_read (v : Json) {item : Item} (h : read v = some item) : item.Genuine := by
  cases v with
  | obj ms =>
      have hread := h
      unfold read at h
      split at h
      case h_1 =>
        obtain ⟨items, hitems, hitem⟩ := Option.bind_eq_some_iff.mp h
        cases hitem
        exact genuine_readSlot "items" ms hitems
      case h_2 =>
        obtain ⟨yes, hyes, h⟩ := Option.bind_eq_some_iff.mp h
        obtain ⟨no, hno, hitem⟩ := Option.bind_eq_some_iff.mp h
        cases hitem
        exact ⟨genuine_readSlot "yes" ms hyes, genuine_readSlot "no" ms hno⟩
      case h_3 => exact genuine_readLeaf (Option.some.inj h) hread
  | null | bool | int | float | str | arr =>
      have hitem := Option.some.inj h
      subst hitem
      exact h

theorem genuine_readSlot (name : String) (ms : List (String × Json)) {items : List Item}
    (h : readSlot name ms = some items) : AllGenuine items := by
  cases ms with
  | nil =>
      cases h
      trivial
  | cons m ms =>
      obtain ⟨n, v⟩ := m
      rw [readSlot] at h
      split at h
      case isTrue => exact genuine_readChildren v h
      case isFalse => exact genuine_readSlot name ms h

theorem genuine_readChildren (v : Json) {items : List Item} (h : readChildren v = some items) :
    AllGenuine items := by
  cases v with
  | null =>
      cases h
      trivial
  | arr entries => exact genuine_readAll entries h
  | bool | int | float | str | obj => cases h

theorem genuine_readAll (entries : List Json) {items : List Item}
    (h : readAll entries = some items) : AllGenuine items := by
  cases entries with
  | nil =>
      cases h
      trivial
  | cons v vs =>
      obtain ⟨item, hitem, h⟩ := Option.bind_eq_some_iff.mp h
      obtain ⟨items, hitems, h⟩ := Option.bind_eq_some_iff.mp h
      cases h
      exact ⟨genuine_read v hitem, genuine_readAll vs hitems⟩

end

/-! ### Back from the object -/

theorem readLeaf_info (text : String) (cond : Json) :
    readLeaf (toJson (.info text cond)) = .info text cond.settled := by
  simp [toJson, readLeaf, getD_type, getD_typed, Entries.get?_append, get?_field, getD_spoken]

theorem getD_placeholder (type : String) (q : Question) (placeholder : Option String) :
    ((typed type (questionFields q placeholder)).getD "placeholder").text? =
      settledText placeholder := by
  simp [getD_typed, questionFields, questionHead, Entries.get?_append, get?_field, getD_spoken]

theorem readQuestion_radio (q : Question) (choices : List Choice) :
    readQuestion (toJson (.radio q choices)) = q.settled := by
  refine readQuestion_of_getD ?_ ?_ ?_ ?_ <;>
    simp [toJson, getD_typed, questionHead, Entries.get?_append, Entries.get?_cons, get?_field,
      getD_spoken]

theorem readChoices_radio (q : Question) (choices : List Choice) :
    readChoices ((toJson (.radio q choices)).getD "choices") = choices := by
  have hchoices :
      (toJson (.radio q choices)).getD "choices" = .arr (choices.map Choice.toJson) := by
    simp [toJson, getD_typed, questionHead, Entries.get?_append, Entries.get?_cons, get?_field]
  rw [hchoices, readChoices_toJson]

/-- What a slot holds that was written: nothing is written for no items. -/
theorem readSlot_written {name : String} {ms : Entries Json} {items : List Item}
    (hslot : ms.get? name = if items.isEmpty then none else some (.arr (allToJson items)))
    (hitems : readAll (allToJson items) = some (allSettled items)) :
    readSlot name ms = some (allSettled items) := by
  rw [readSlot_eq, hslot]
  cases items with
  | nil => rfl
  | cons item items => exact hitems

/-- An item that holds no others is read back, settled. -/
theorem readLeaf_toJson {item : Item} (hblock : ∀ text cond items, item ≠ .block text cond items)
    (hyesNo : ∀ q yes no, item ≠ .yesNo q yes no)
    (hknown : ∀ type source, item ≠ .unknown type source) :
    readLeaf item.toJson = item.settled := by
  cases item with
  | block text cond items => exact absurd rfl (hblock text cond items)
  | yesNo q yes no => exact absurd rfl (hyesNo q yes no)
  | unknown type source => exact absurd rfl (hknown type source)
  | info text cond => exact readLeaf_info text cond
  | tip t => exact congrArg Item.tip (readTip_tipFields "tip" t)
  | spacer => rfl
  | line q placeholder =>
      have hq := readQuestion_questionFields "line" q placeholder [] (by simp)
      rw [List.append_nil] at hq
      exact congrArg₂ Item.line hq (getD_placeholder "line" q placeholder)
  | box q placeholder =>
      have hq := readQuestion_questionFields "box" q placeholder [] (by simp)
      rw [List.append_nil] at hq
      exact congrArg₂ Item.box hq (getD_placeholder "box" q placeholder)
  | check q =>
      have hq := readQuestion_questionFields "check" q none [] (by simp)
      rw [List.append_nil] at hq
      exact congrArg Item.check hq
  | radio q choices =>
      exact congrArg₂ Item.radio (readQuestion_radio q choices) (readChoices_radio q choices)
  | radioGroup q group =>
      exact congrArg₂ Item.radioGroup (readQuestion_groupFields "radiogroup" q group)
        (readGroup_groupFields "radiogroup" q group)
  | checkGroup q group =>
      exact congrArg₂ Item.checkGroup (readQuestion_groupFields "checkgroup" q group)
        (readGroup_groupFields "checkgroup" q group)

mutual

/-- **What was written for an item is read as that item, settled.** -/
theorem read_toJson (item : Item) (h : item.Genuine) : read item.toJson = some item.settled := by
  cases item with
  | block text cond items =>
      have hitems := readAll_allToJson items h
      have hslot : readSlot "items" (toJson (.block text cond items)).members =
          some (allSettled items) := by
        rw [readSlot_eq, ← hitems]
        simp [toJson, typed, Json.members, Entries.get?_cons, Entries.get?_append, get?_field,
          readChildren]
      have htext : ((toJson (.block text cond items)).getD "text").text = text := by
        simp [toJson, getD_typed, Entries.get?_append, Entries.get?_cons, get?_field, getD_spoken]
      have hcond : (toJson (.block text cond items)).getD "cond" = cond.settled := by
        simp [toJson, getD_typed, Entries.get?_append, Entries.get?_cons, get?_field, getD_spoken]
      rw [toJson] at hslot htext hcond ⊢
      rw [read_block, hslot, htext, hcond]
      rfl
  | yesNo q yes no =>
      have hyes := readAll_allToJson yes h.1
      have hno := readAll_allToJson no h.2
      have hslots : readSlot "yes" (toJson (.yesNo q yes no)).members = some (allSettled yes) ∧
          readSlot "no" (toJson (.yesNo q yes no)).members = some (allSettled no) := by
        refine ⟨readSlot_written ?_ hyes, readSlot_written ?_ hno⟩ <;>
          (cases yes <;> cases no) <;>
          simp [toJson, typed, Json.members, questionFields, questionHead, Entries.get?_cons,
            Entries.get?_append, get?_field]
      have hquestion : readQuestion (toJson (.yesNo q yes no)) = q.settled := by
        rw [toJson, List.append_assoc]
        refine readQuestion_questionFields "yesno" q none _ ?_
        cases yes <;> cases no <;> simp [Entries.get?_cons]
      rw [toJson] at hslots hquestion ⊢
      rw [read_yesNo, hslots.1, hslots.2, hquestion]
      rfl
  | unknown type source => exact h
  | info | tip | spacer | line | box | check | radio | radioGroup | checkGroup =>
      rw [← readLeaf_toJson (by simp) (by simp) (by simp), toJson]
      exact read_typed (by decide) (by decide) _

/-- The same for a list of items. -/
theorem readAll_allToJson (items : List Item) (h : AllGenuine items) :
    readAll (allToJson items) = some (allSettled items) := by
  cases items with
  | nil => rfl
  | cons item items =>
      have hitem := read_toJson item h.1
      have hitems := readAll_allToJson items h.2
      rw [allToJson, readAll, hitem, hitems]
      rfl

end

end Item

namespace Document

/-- What a document is read from. -/
theorem ofObject_eq_ok {source : Json} {d : Document} (h : ofObject source = .ok d) :
    ∃ name entries, source.getD name = .arr entries ∧ Item.readAll entries = some d.items ∧
      readVersion source = .ok d.version := by
  unfold ofObject at h
  split at h
  case h_1 => cases h
  case h_2 name _ =>
    split at h
    case h_1 entries hentries =>
      cases hversion : readVersion source with
      | error e =>
          rw [hversion] at h
          cases h
      | ok version =>
          simp only [hversion, bind, Except.bind] at h
          split at h
          case h_1 items hitems =>
            cases h
            exact ⟨name, entries, hentries, hitems, rfl⟩
          case h_2 => cases h
    case h_2 => cases h

theorem genuine_ofObject {source : Json} {d : Document} (h : ofObject source = .ok d) :
    Item.AllGenuine d.items := by
  obtain ⟨-, entries, -, hitems, -⟩ := ofObject_eq_ok h
  exact Item.genuine_readAll entries hitems

/-- **The object that was written for a document is read as that document, settled.** -/
theorem ofObject_toJson {d : Document} (h : Item.AllGenuine d.items) :
    ofObject d.toJson = .ok d.settled := by
  have hname : itemsName? d.toJson = some "items" := rfl
  have hitems : d.toJson.getD "items" = .arr (Item.allToJson d.items) := rfl
  have hversion : readVersion d.toJson = .ok d.version := rfl
  simp only [ofObject, hname, hitems, hversion, Item.readAll_allToJson d.items h]
  rfl

end Document

end Questionnaire
