/-
A document that is written and read again is the document, settled.

Reading back from the object is one half, `ofObject_toJson`.  The other is that the object
survives being a text, for which it has to be writable: every name once in an object, no
whole number beyond what a numeral may have.  What was read from a writable value is
written as one, since all that is kept as it was, conditions and unknown items, is part of
that value.
-/
import Questionnaire.Failure
import Questionnaire.Proofs.Document.Comment
import Questionnaire.Proofs.Document.Reading

namespace Questionnaire

open Json (Writable)

namespace Item

/-! ### Items that were read from writable values -/

mutual

/-- Every value that an item keeps as it was given is writable. -/
def Writable : Item → Prop
  | .block _ cond items => cond.Writable ∧ AllWritable items
  | .yesNo q yes no => q.cond.Writable ∧ AllWritable yes ∧ AllWritable no
  | .unknown _ source => source.Writable
  | item => item.cond.Writable

/-- The same for a list of items. -/
def AllWritable : List Item → Prop
  | [] => True
  | item :: items => Writable item ∧ AllWritable items

end

variable {ms : Entries Json}

theorem writable_of_get? (h : ∀ m ∈ ms, m.2.Writable) {name : String} {v : Json}
    (hv : ms.get? name = some v) : v.Writable := by
  induction ms with
  | nil => cases hv
  | cons m ms ih =>
      rw [List.forall_mem_cons] at h
      rw [Entries.get?_cons] at hv
      split at hv
      case isTrue =>
        cases hv
        exact h.1
      case isFalse => exact ih h.2 hv

theorem writable_getD (h : ∀ m ∈ ms, m.2.Writable) (name : String) :
    ((Json.obj ms).getD name).Writable := by
  show ((ms.get? name).getD .null).Writable
  cases hv : ms.get? name with
  | none => exact Json.writable_null
  | some v => exact writable_of_get? h hv

theorem writable_readLeaf (h : (Json.obj ms).Writable) : (readLeaf (.obj ms)).Writable := by
  have hcond := writable_getD (Json.writable_obj.mp h).2 "cond"
  unfold readLeaf
  split
  case h_3 => exact Json.writable_null
  case h_10 => exact h
  all_goals exact hcond

mutual

/-- What is read from a writable value is writable. -/
theorem writable_read (v : Json) (hv : v.Writable) {item : Item} (h : read v = some item) :
    item.Writable := by
  cases v with
  | obj ms =>
      have hmembers := (Json.writable_obj.mp hv).2
      have hcond := writable_getD hmembers "cond"
      unfold read at h
      split at h
      case h_1 =>
        obtain ⟨items, hitems, hitem⟩ := Option.bind_eq_some_iff.mp h
        cases hitem
        exact ⟨hcond, writable_readSlot "items" ms hmembers hitems⟩
      case h_2 =>
        obtain ⟨yes, hyes, h⟩ := Option.bind_eq_some_iff.mp h
        obtain ⟨no, hno, hitem⟩ := Option.bind_eq_some_iff.mp h
        cases hitem
        exact ⟨hcond, writable_readSlot "yes" ms hmembers hyes,
          writable_readSlot "no" ms hmembers hno⟩
      case h_3 =>
        cases h
        exact writable_readLeaf hv
  | null | bool | int | float | str | arr =>
      cases h
      exact hv

theorem writable_readSlot (name : String) (ms : List (String × Json))
    (hms : ∀ m ∈ ms, m.2.Writable) {items : List Item} (h : readSlot name ms = some items) :
    AllWritable items := by
  cases ms with
  | nil =>
      cases h
      trivial
  | cons m ms =>
      obtain ⟨n, v⟩ := m
      rw [List.forall_mem_cons] at hms
      rw [readSlot] at h
      split at h
      case isTrue => exact writable_readChildren v hms.1 h
      case isFalse => exact writable_readSlot name ms hms.2 h

theorem writable_readChildren (v : Json) (hv : v.Writable) {items : List Item}
    (h : readChildren v = some items) : AllWritable items := by
  cases v with
  | null =>
      cases h
      trivial
  | arr entries => exact writable_readAll entries (Json.writable_arr.mp hv) h
  | bool | int | float | str | obj => cases h

theorem writable_readAll (entries : List Json) (hentries : ∀ v ∈ entries, v.Writable)
    {items : List Item} (h : readAll entries = some items) : AllWritable items := by
  cases entries with
  | nil =>
      cases h
      trivial
  | cons v vs =>
      rw [List.forall_mem_cons] at hentries
      obtain ⟨item, hitem, h⟩ := Option.bind_eq_some_iff.mp h
      obtain ⟨items, hitems, h⟩ := Option.bind_eq_some_iff.mp h
      cases h
      exact ⟨writable_read v hentries.1 hitem, writable_readAll vs hentries.2 hitems⟩

end

/-! ### The objects that are written -/

/-- Fields that are writable, under names that come in this order. -/
structure Fields (names : List String) (ms : Entries Json) : Prop where
  names : (ms.map Prod.fst).Sublist names
  writable : ∀ m ∈ ms, m.2.Writable

theorem fields_field (name : String) {v : Json} (hv : v.Writable) :
    Fields [name] (field name v) := by
  unfold field
  split
  case isTrue => exact ⟨List.Sublist.refl _, by simpa using hv⟩
  case isFalse => exact ⟨List.nil_sublist _, by simp⟩

theorem Fields.append {names names' : List String} {ms ms' : Entries Json} (h : Fields names ms)
    (h' : Fields names' ms') : Fields (names ++ names') (ms ++ ms') where
  names := by
    rw [List.map_append]
    exact h.names.append h'.names
  writable := List.forall_mem_append.mpr ⟨h.writable, h'.writable⟩

theorem writable_typed {type : String} {names : List String} {ms : Entries Json}
    (h : Fields names ms) (hnames : ("type" :: names).Nodup) : (typed type ms).Writable := by
  refine Json.writable_obj.mpr ⟨?_, ?_⟩
  · exact (h.names.cons_cons "type").nodup hnames
  · exact List.forall_mem_cons.mpr ⟨Json.writable_str type, h.writable⟩

theorem fields_str (name s : String) : Fields [name] (field name (.str s)) :=
  fields_field name (Json.writable_str s)

theorem fields_bool (name : String) (b : Bool) : Fields [name] (field name (.bool b)) :=
  fields_field name (Json.writable_bool b)

theorem fields_text (name : String) (text : Option String) :
    Fields [name] (field name (.ofText? text)) := by
  cases text with
  | none => exact fields_field name Json.writable_null
  | some s => exact fields_str name s

theorem fields_arr (name : String) {values : List Json} (h : ∀ v ∈ values, v.Writable) :
    Fields [name] [(name, .arr values)] :=
  ⟨List.Sublist.refl _, by simpa using Json.writable_arr.mpr h⟩

theorem fields_nil (names : List String) : Fields names [] := ⟨List.nil_sublist names, by simp⟩

theorem fields_questionHead (q : Question) : Fields ["id", "text"] (questionHead q) :=
  (fields_str "id" q.id).append (fields_str "text" q.text)

theorem fields_questionFields {q : Question} (h : q.cond.Writable) (placeholder : Option String) :
    Fields ["id", "text", "required", "placeholder", "cond"] (questionFields q placeholder) :=
  (((fields_questionHead q).append (fields_bool "required" q.required)).append
    (fields_text "placeholder" placeholder)).append (fields_field "cond" h)

theorem fields_groupFields {q : Question} (h : q.cond.Writable) (group : GroupChoices) :
    Fields ["id", "text", "choices", "defaultChoice", "required", "cond"]
      (groupFields q group) := by
  have hchoices : ∀ v ∈ group.choices.map GroupChoice.toJson, v.Writable := by
    intro v hv
    obtain ⟨c, -, rfl⟩ := List.mem_map.mp hv
    exact Json.writable_obj.mpr ⟨by simp, by simpa using Json.writable_str c.label⟩
  exact ((((fields_questionHead q).append (fields_arr "choices" hchoices)).append
    (fields_text "defaultChoice" group.initial)).append
    (fields_bool "required" q.required)).append (fields_field "cond" h)

theorem fields_tipFields {t : Tip} (h : t.cond.Writable) :
    Fields ["id", "text", "severity", "why", "name", "warn", "cond"] (tipFields t) :=
  ((((((fields_str "id" t.id).append (fields_str "text" t.text)).append
    (fields_text "severity" t.severity)).append (fields_text "why" t.why)).append
    (fields_text "name" t.name)).append (fields_bool "warn" t.warn)).append (fields_field "cond" h)

theorem writable_choice (c : Choice) : c.toJson.Writable :=
  Json.writable_obj.mpr ⟨by simp, by simp [Json.writable_str]⟩

/-- What is written for a branch: nothing for no items. -/
theorem fields_branch (name : String) {items : List Item}
    (h : ∀ v ∈ allToJson items, v.Writable) :
    Fields [name] (if items.isEmpty then [] else [(name, .arr (allToJson items))]) := by
  split
  case isTrue => exact fields_nil [name]
  case isFalse => exact fields_arr name h

mutual

/-- What is written for an item is writable if all that it keeps is. -/
theorem writable_toJson (item : Item) (h : item.Writable) : item.toJson.Writable := by
  cases item with
  | block text cond items =>
      have hitems := writable_allToJson items h.2
      exact writable_typed (((fields_str "text" text).append (fields_field "cond" h.1)).append
        (fields_arr "items" hitems)) (by decide)
  | info text cond =>
      exact writable_typed ((fields_str "text" text).append (fields_field "cond" h)) (by decide)
  | tip t => exact writable_typed (fields_tipFields h) (by decide)
  | spacer => exact writable_typed (fields_nil []) (by decide)
  | line q placeholder => exact writable_typed (fields_questionFields h placeholder) (by decide)
  | box q placeholder => exact writable_typed (fields_questionFields h placeholder) (by decide)
  | check q => exact writable_typed (fields_questionFields h none) (by decide)
  | yesNo q yes no =>
      obtain ⟨hcond, hyes, hno⟩ := h
      exact writable_typed (((fields_questionFields hcond none).append
        (fields_branch "yes" (writable_allToJson yes hyes))).append
        (fields_branch "no" (writable_allToJson no hno))) (by decide)
  | radio q choices =>
      have hchoices : ∀ v ∈ choices.map Choice.toJson, v.Writable := by
        intro v hv
        obtain ⟨c, -, rfl⟩ := List.mem_map.mp hv
        exact writable_choice c
      exact writable_typed ((((fields_questionHead q).append (fields_arr "choices" hchoices)).append
        (fields_bool "required" q.required)).append (fields_field "cond" h)) (by decide)
  | radioGroup q group => exact writable_typed (fields_groupFields h group) (by decide)
  | checkGroup q group => exact writable_typed (fields_groupFields h group) (by decide)
  | unknown type source => exact h

/-- The same for a list of items. -/
theorem writable_allToJson (items : List Item) (h : AllWritable items) :
    ∀ v ∈ allToJson items, v.Writable := by
  cases items with
  | nil => simp [allToJson]
  | cons item items =>
      have hitem := writable_toJson item h.1
      have hitems := writable_allToJson items h.2
      rw [allToJson]
      exact List.forall_mem_cons.mpr ⟨hitem, hitems⟩

end

end Item

namespace Document

theorem short_readVersion {source : Json} (hsource : source.Writable) {n : Int}
    (h : readVersion source = .ok n) : (Json.int n).Writable := by
  unfold readVersion at h
  split at h
  case h_1 =>
    cases h
    exact ⟨trivial, by show Decimal.Double.digitCount 1 ≤ Text.maxDigits; decide⟩
  case h_2 hversion =>
    cases h
    cases source with
    | obj ms => exact Item.writable_of_get? (Json.writable_obj.mp hsource).2 hversion
    | null | bool | int | float | str | arr => cases hversion
  case h_3 => cases h

/-- What a document that was read from a writable object keeps is writable. -/
theorem writable_parts {ms : Entries Json} {d : Document} (hsource : (Json.obj ms).Writable)
    (h : ofObject (.obj ms) = .ok d) : (Json.int d.version).Writable ∧ Item.AllWritable d.items := by
  obtain ⟨name, entries, hentries, hitems, hversion⟩ := ofObject_eq_ok h
  have hlist := Item.writable_getD (Json.writable_obj.mp hsource).2 name
  rw [hentries] at hlist
  exact ⟨short_readVersion hsource hversion,
    Item.writable_readAll entries (Json.writable_arr.mp hlist) hitems⟩

/-- What is written for a document that keeps nothing but what is writable is writable. -/
theorem writable_of_parts {d : Document} (hversion : (Json.int d.version).Writable)
    (hitems : Item.AllWritable d.items) : d.toJson.Writable := by
  refine Json.writable_obj.mpr ⟨by simp, ?_⟩
  exact List.forall_mem_cons.mpr ⟨hversion, List.forall_mem_singleton.mpr
    (Json.writable_arr.mpr (Item.writable_allToJson d.items hitems))⟩

/-- What is written for a document that was read from a writable object is writable. -/
theorem writable_toJson {ms : Entries Json} {d : Document} (hsource : (Json.obj ms).Writable)
    (h : ofObject (.obj ms) = .ok d) : d.toJson.Writable :=
  writable_of_parts (writable_parts hsource h).1 (writable_parts hsource h).2

/-- The indentation by a number of blanks; none on one line. -/
def indentation (blanks : Option Nat) : Option String :=
  blanks.map fun n => String.ofList (List.replicate n ' ')

theorem blank_indentation (blanks : Option Nat) :
    ({ indent := indentation blanks } : Json.Style).Blank := by
  intro step hstep c hc
  obtain ⟨n, -, rfl⟩ := Option.map_eq_some_iff.mp hstep
  rw [String.toList_ofList] at hc
  rw [List.eq_of_mem_replicate hc]
  rfl

theorem ofObject_of_load {ms : Entries Json} {d : Document} (h : load (.obj ms) = .ok d) :
    ofObject (.obj ms) = .ok d := by
  have hmapped : (ofObject (.obj ms)).mapError Failure.ofFault = .ok d := h
  cases hobject : ofObject (.obj ms) with
  | error fault =>
      rw [hobject] at hmapped
      cases hmapped
  | ok e =>
      rw [hobject] at hmapped
      cases hmapped
      rfl

/-- The text of a writable object is read as the object is. -/
theorem load_text {d : Document} {indent : Option String}
    (hstyle : ({ indent } : Json.Style).Blank) (hd : d.toJson.Writable) :
    load (.str (d.write indent)) = load d.toJson := by
  have hparse := Json.parse_write hstyle hd
  have hstrip := Comment.strip_of_parse hparse
  rw [load, load, write, ofJson, ofText, hstrip, String.ofList_toList, hparse]
  rfl

/-- **A document that is written and read again is the document, settled.**  Whatever JSON
object it came from, and on one line or indented by any number of blanks, its text is read
without a fault.  It gives the document itself if and only if that is tidy, and what it
gives is written as the same text again.  Settling leaves the version and every item in its
place. -/
theorem load_write {ms : Entries Json} (hsource : (Json.obj ms).Writable) {d : Document}
    (h : load (.obj ms) = .ok d) (blanks : Option Nat) :
    load (.str (d.write (indentation blanks))) = .ok d.settled ∧
      (load (.str (d.write (indentation blanks))) = .ok d ↔ d.Tidy) ∧
      (load (.str (d.write (indentation blanks)))).map (·.write (indentation blanks)) =
        .ok (d.write (indentation blanks)) ∧
      d.settled.version = d.version ∧ d.settled.roots = d.roots ∧
      d.settled.outline = d.outline.map Node.settled := by
  have hd := ofObject_of_load h
  have hback : load (.str (d.write (indentation blanks))) = .ok d.settled := by
    rw [load_text (blank_indentation blanks) (writable_toJson hsource hd)]
    show (ofObject d.toJson).mapError Failure.ofFault = _
    rw [ofObject_toJson (genuine_ofObject hd)]
    rfl
  refine ⟨hback, ?_, ?_, rfl, roots_settled d, outline_settled d⟩
  · rw [hback, Except.ok.injEq, settled_eq_self]
  · rw [hback]
    exact congrArg Except.ok (write_settled d _)

/-- A condition that is false comes back as null. -/
theorem load_write_falseCondition :
    let source : Entries Json :=
      [("items", .arr [.obj [("type", .str "line"), ("id", .str "q"), ("cond", .bool false)]])]
    let d : Document := ⟨1, [.line ⟨"q", "", false, .bool false⟩ none]⟩
    (Json.obj source).Writable ∧ load (.obj source) = .ok d ∧
      load (.str (d.write (indentation (some 2)))) =
        .ok ⟨1, [.line ⟨"q", "", false, .null⟩ none]⟩ := by
  intro source d
  have hsource : (Json.obj source).Writable := by
    refine Json.writable_obj.mpr ⟨by simp [source], ?_⟩
    simp [source, Json.writable_obj, Json.writable_arr, Json.writable_str, Json.writable_bool]
  have hload : load (.obj source) = .ok d := rfl
  exact ⟨hsource, hload, (load_write hsource hload (some 2)).1⟩

end Document

end Questionnaire
