/-
Which objects are documents.

An object is read as a document if it lists its entries, gives no version but a whole number, and
every block and yes/no question among the entries has lists, or nothing, where it holds others.
`load_object` says that this is all that is asked.  No other field of an entry can keep the object
from being read, and what stands in an entry of an unknown type is not looked at.

An entry is looked at if it is listed, or stands under a slot of an entry that is looked at; this is
`Json.Reached`.  `Json.entries` counts the same entries up in reading order, each as often as it
stands there, and the nodes of the document are compared with this list.
-/
import Questionnaire.Proofs.Document.Arena

namespace Questionnaire

namespace Json

/-! ### Entries inside entries -/

/-- The names under which an entry holds others, which its type gives it. -/
def slots (v : Json) : List String :=
  match v.get? "type" with
  | some (.str "block") => ["items"]
  | some (.str "yesno") => ["yes", "no"]
  | _ => []

/-- The entries that are listed under a name. -/
def listed (v : Json) (name : String) : List Json :=
  match v.get? name with
  | some (.arr entries) => entries
  | _ => []

/-- The entries under the slots of an entry. -/
def inside (v : Json) : List Json := v.slots.flatMap v.listed

/-- An entry has a list, or nothing, under each of its slots. -/
def Listing (v : Json) : Prop :=
  ∀ name ∈ v.slots, ∀ w, v.get? name = some w → w = .null ∨ ∃ entries, w = .arr entries

/-- The entries that are reached from a list: those in it, and those that are listed under a slot of
an entry that is reached. -/
inductive Reached (entries : List Json) : Json → Prop
  | top {v : Json} (hv : v ∈ entries) : Reached entries v
  | under {v w : Json} {name : String} {inner : List Json} (hv : Reached entries v)
      (hname : name ∈ v.slots) (hlist : v.get? name = some (.arr inner)) (hw : w ∈ inner) :
      Reached entries w

theorem getD_eq_str_iff {v : Json} {name s : String} :
    v.getD name = .str s ↔ v.get? name = some (.str s) := by
  rw [getD]
  cases v.get? name <;> simp

theorem mem_inside_iff {v w : Json} :
    w ∈ v.inside ↔ ∃ name ∈ v.slots, ∃ inner, v.get? name = some (.arr inner) ∧ w ∈ inner := by
  rw [inside, List.mem_flatMap]
  refine exists_congr fun name => and_congr_right fun _ => ?_
  unfold listed
  split
  case h_1 entries hlist =>
    constructor
    · exact fun hw => ⟨entries, hlist, hw⟩
    · rintro ⟨inner, hinner, hw⟩
      obtain rfl := Json.arr.inj (Option.some.inj (hlist.symm.trans hinner))
      exact hw
  case h_2 hother =>
    refine ⟨fun hw => absurd hw List.not_mem_nil, ?_⟩
    rintro ⟨inner, hinner, -⟩
    exact absurd hinner (hother inner)

theorem sizeOf_lt_of_mem_inside {v w : Json} (hw : w ∈ v.inside) : sizeOf w < sizeOf v := by
  obtain ⟨name, -, inner, hinner, hmem⟩ := mem_inside_iff.mp hw
  cases v with
  | obj ms =>
      obtain ⟨before, after, rfl, -⟩ := List.lookup_eq_some_iff.mp hinner
      have hpair : sizeOf (name, arr inner) < sizeOf (before ++ (name, arr inner) :: after) :=
        List.sizeOf_lt_of_mem List.mem_append_cons_self
      have hlist := List.sizeOf_lt_of_mem hmem
      simp only [Prod.mk.sizeOf_spec, arr.sizeOf_spec] at hpair
      rw [obj.sizeOf_spec]
      omega
  | null | bool | int | float | str | arr => cases hinner

/-- What holds of an entry whenever it holds of those inside holds of every entry. -/
@[elab_as_elim]
theorem entry_induction {motive : Json → Prop}
    (entry : ∀ v, (∀ w ∈ v.inside, motive w) → motive v) (v : Json) : motive v :=
  entry v fun w _ => entry_induction entry w
termination_by sizeOf v
decreasing_by exact sizeOf_lt_of_mem_inside ‹_›

/-- An entry and all those inside, in reading order. -/
def entries (v : Json) : List Json :=
  v :: v.inside.attach.flatMap fun ⟨w, _⟩ => w.entries
termination_by sizeOf v
decreasing_by exact sizeOf_lt_of_mem_inside ‹_›

theorem entries_eq (v : Json) : v.entries = v :: v.inside.flatMap entries := by
  rw [entries]
  simp only [List.flatMap_subtype, List.unattach_attach]

theorem mem_entries_self (v : Json) : v ∈ v.entries := by
  rw [entries_eq]
  exact List.mem_cons_self

/-- With an entry those inside it are counted up. -/
theorem mem_entries_of_inside {v u w : Json} (hu : u ∈ v.entries) (hw : w ∈ u.inside) :
    w ∈ v.entries := by
  induction v using entry_induction with
  | entry v ih =>
      rw [entries_eq] at hu ⊢
      refine List.mem_cons_of_mem _ (List.mem_flatMap.mpr ?_)
      rcases List.mem_cons.mp hu with rfl | hu
      · exact ⟨w, hw, mem_entries_self w⟩
      · obtain ⟨x, hx, hu⟩ := List.mem_flatMap.mp hu
        exact ⟨x, hx, ih x hx hu⟩

theorem Reached.of_mem_entries {listed : List Json} {v : Json} (hv : Reached listed v) :
    ∀ w ∈ v.entries, Reached listed w := by
  induction v using entry_induction with
  | entry v ih =>
      rw [entries_eq, List.forall_mem_cons, List.forall_mem_flatMap]
      refine ⟨hv, fun w hw => ih w hw ?_⟩
      obtain ⟨name, hname, inner, hinner, hmem⟩ := mem_inside_iff.mp hw
      exact hv.under hname hinner hmem

/-- The entries that are counted up are those that are reached. -/
theorem mem_flatMap_entries_iff {listed : List Json} {v : Json} :
    v ∈ listed.flatMap entries ↔ Reached listed v := by
  constructor
  · intro hv
    obtain ⟨u, hu, hv⟩ := List.mem_flatMap.mp hv
    exact (Reached.top hu).of_mem_entries v hv
  · intro hv
    induction hv with
    | top hv => exact List.mem_flatMap.mpr ⟨_, hv, mem_entries_self _⟩
    | under _ hname hlist hw ih =>
        obtain ⟨u, hu, hv⟩ := List.mem_flatMap.mp ih
        have hinside := mem_inside_iff.mpr ⟨_, hname, _, hlist, hw⟩
        exact List.mem_flatMap.mpr ⟨u, hu, mem_entries_of_inside hv hinside⟩

end Json

namespace Item

/-! ### One entry -/

/-- The types of the items that are known. -/
def knownTypes : List String :=
  ["block", "info", "tip", "spacer", "line", "box", "check", "yesno", "radio", "radiogroup",
    "checkgroup"]

/-- What an entry stands for: an item of its type if that is known, and else the entry itself, kept
whole. -/
inductive Of (v : Json) : Item → Prop
  | known {item : Item} (hknown : item.type ∈ knownTypes) (htype : v.getD "type" = .str item.type)
      (hitem : ∀ other source, item ≠ .unknown other source) : Of v item
  | unknown (htype : ∀ type ∈ knownTypes, v.getD "type" ≠ .str type) :
      Of v (.unknown (v.getD "type").text v)

theorem readAll_eq_some_iff {vs : List Json} {items : List Item} :
    readAll vs = some items ↔ List.Forall₂ (fun v item => read v = some item) vs items := by
  induction vs generalizing items with
  | nil => simp [readAll, eq_comm]
  | cons v vs ih =>
      constructor
      · intro h
        obtain ⟨item, hitem, h⟩ := Option.bind_eq_some_iff.mp h
        obtain ⟨rest, hrest, h⟩ := Option.bind_eq_some_iff.mp h
        cases h
        exact .cons hitem (ih.mp hrest)
      · rintro (_ | ⟨hitem, hrest⟩)
        rw [readAll, hitem, ih.mpr hrest]
        rfl

theorem exists_readAll_iff {vs : List Json} :
    (∃ items, readAll vs = some items) ↔ ∀ v ∈ vs, ∃ item, read v = some item := by
  induction vs with
  | nil => simp [readAll]
  | cons v vs ih =>
      rw [List.forall_mem_cons, ← ih]
      simp only [readAll_eq_some_iff, List.forall₂_cons_left_iff]
      constructor
      · rintro ⟨items, item, rest, hitem, hrest, -⟩
        exact ⟨⟨item, hitem⟩, rest, hrest⟩
      · rintro ⟨⟨item, hitem⟩, rest, hrest⟩
        exact ⟨_, item, rest, hitem, hrest, rfl⟩

/-- A slot is read if it has a list or nothing, and the entries of the list are read. -/
theorem readSlot_eq_some_iff {ms : Entries Json} {name : String} {items : List Item} :
    readSlot name ms = some items ↔
      (∀ w, Json.get? (.obj ms) name = some w → w = .null ∨ ∃ entries, w = .arr entries) ∧
        readAll (Json.listed (.obj ms) name) = some items := by
  have hget : Json.get? (.obj ms) name = ms.get? name := rfl
  rw [readSlot_eq, Json.listed, hget]
  cases ms.get? name with
  | none => simp [readAll]
  | some w => cases w <;> simp [readChildren, readAll]

theorem exists_readSlot_iff {ms : Entries Json} {name : String} :
    (∃ items, readSlot name ms = some items) ↔
      (∀ w, Json.get? (.obj ms) name = some w → w = .null ∨ ∃ entries, w = .arr entries) ∧
        ∀ w ∈ Json.listed (.obj ms) name, ∃ item, read w = some item := by
  simp only [readSlot_eq_some_iff, exists_and_left, exists_readAll_iff]

/-- The type of an entry settles under which slots it holds others. -/
theorem slots_obj (ms : Entries Json) :
    (ms.get? "type" = some (.str "block") ∧ Json.slots (.obj ms) = ["items"]) ∨
      (ms.get? "type" = some (.str "yesno") ∧ Json.slots (.obj ms) = ["yes", "no"]) ∨
      ms.get? "type" ≠ some (.str "block") ∧ ms.get? "type" ≠ some (.str "yesno") ∧
        Json.slots (.obj ms) = [] := by
  have hget : Json.get? (.obj ms) "type" = ms.get? "type" := rfl
  unfold Json.slots
  rw [hget]
  split
  case h_1 htype => exact .inl ⟨htype, rfl⟩
  case h_2 htype => exact .inr (.inl ⟨htype, rfl⟩)
  case h_3 hblock hyesNo => exact .inr (.inr ⟨hblock, hyesNo, rfl⟩)

/-- An entry is read if it has lists, or nothing, under its slots, and those inside are read. -/
theorem exists_read_iff {v : Json} :
    (∃ item, read v = some item) ↔ v.Listing ∧ ∀ w ∈ v.inside, ∃ item, read w = some item := by
  cases v with
  | obj ms =>
      rcases slots_obj ms with ⟨htype, hslots⟩ | ⟨htype, hslots⟩ | ⟨hblock, hyesNo, hslots⟩
      · rw [read_of_block htype, Json.Listing, Json.inside, hslots, List.forall_mem_singleton,
          List.flatMap_singleton, ← exists_readSlot_iff]
        cases readSlot "items" ms <;> simp
      · rw [read_of_yesNo htype, Json.Listing, Json.inside, hslots, List.forall_mem_cons,
          List.forall_mem_singleton, List.flatMap_cons, List.flatMap_singleton,
          List.forall_mem_append, and_and_and_comm, ← exists_readSlot_iff, ← exists_readSlot_iff]
        cases readSlot "yes" ms <;> cases readSlot "no" ms <;> simp
      · rw [read_of_leaf hblock hyesNo, Json.Listing, Json.inside, hslots]
        simp
  | null | bool | int | float | str | arr =>
      simp [read, Json.Listing, Json.inside, Json.slots, Json.get?, Json.members, Entries.get?]

theorem children_of_isLeaf {item : Item} (hleaf : item.IsLeaf) : item.children = [] := by
  cases item with
  | block | yesNo => exact hleaf.elim
  | info | tip | spacer | line | box | check | radio | radioGroup | checkGroup | unknown => rfl

/-- What an item holds is read from the entries inside. -/
theorem readAll_inside {v : Json} {item : Item} (h : read v = some item) :
    readAll v.inside = some item.children := by
  cases v with
  | obj ms =>
      rcases slots_obj ms with ⟨htype, hslots⟩ | ⟨htype, hslots⟩ | ⟨hblock, hyesNo, hslots⟩
      · rw [read_of_block htype] at h
        obtain ⟨items, hitems, hitem⟩ := Option.bind_eq_some_iff.mp h
        cases hitem
        rw [Json.inside, hslots, List.flatMap_singleton]
        exact (readSlot_eq_some_iff.mp hitems).2
      · rw [read_of_yesNo htype] at h
        obtain ⟨yes, hyes, h⟩ := Option.bind_eq_some_iff.mp h
        obtain ⟨no, hno, hitem⟩ := Option.bind_eq_some_iff.mp h
        cases hitem
        rw [Json.inside, hslots, List.flatMap_cons, List.flatMap_singleton, readAll_eq_some_iff]
        exact List.rel_append (readAll_eq_some_iff.mp (readSlot_eq_some_iff.mp hyes).2)
          (readAll_eq_some_iff.mp (readSlot_eq_some_iff.mp hno).2)
      · rw [read_of_leaf hblock hyesNo] at h
        cases h
        rw [Json.inside, hslots, List.flatMap_nil, children_of_isLeaf (Editor.isLeaf_readLeaf _)]
        rfl
  | null | bool | int | float | str | arr =>
      cases h
      rfl

/-- An entry without slots is read as an item of its type, or it is kept. -/
theorem of_readLeaf {v : Json} (hblock : v.getD "type" ≠ .str "block")
    (hyesNo : v.getD "type" ≠ .str "yesno") : Of v (readLeaf v) := by
  unfold readLeaf
  split
  case h_10 hinfo htip hspacer hline hbox hcheck hradio hradioGroup hcheckGroup =>
    refine .unknown ?_
    simp only [knownTypes, List.forall_mem_cons]
    exact ⟨hblock, hinfo, htip, hspacer, hline, hbox, hcheck, hyesNo, hradio, hradioGroup,
      hcheckGroup, List.forall_mem_nil _⟩
  all_goals exact .known (by simp [knownTypes, type]) ‹_› (by simp)

/-- **What an entry is read as is an item of its type, or the entry itself.** -/
theorem of_read {v : Json} {item : Item} (h : read v = some item) : Of v item := by
  cases v with
  | obj ms =>
      rcases slots_obj ms with ⟨htype, -⟩ | ⟨htype, -⟩ | ⟨hblock, hyesNo, -⟩
      · rw [read_of_block htype] at h
        obtain ⟨items, -, hitem⟩ := Option.bind_eq_some_iff.mp h
        cases hitem
        exact .known (by simp [knownTypes, type]) (Json.getD_eq_str_iff.mpr htype)
          (by simp)
      · rw [read_of_yesNo htype] at h
        obtain ⟨yes, -, h⟩ := Option.bind_eq_some_iff.mp h
        obtain ⟨no, -, hitem⟩ := Option.bind_eq_some_iff.mp h
        cases hitem
        exact .known (by simp [knownTypes, type]) (Json.getD_eq_str_iff.mpr htype)
          (by simp)
      · rw [read_of_leaf hblock hyesNo] at h
        cases h
        exact of_readLeaf (fun htype => hblock (Json.getD_eq_str_iff.mp htype))
          fun htype => hyesNo (Json.getD_eq_str_iff.mp htype)
  | null | bool | int | float | str | arr =>
      cases h
      refine .unknown fun type _ htype => ?_
      cases htype

/-! ### Entries side by side -/

/-- An entry is read if whatever is counted up from it has lists, or nothing, under its slots. -/
theorem exists_read_iff_entries {v : Json} :
    (∃ item, read v = some item) ↔ ∀ w ∈ v.entries, w.Listing := by
  induction v using Json.entry_induction with
  | entry v ih =>
      rw [exists_read_iff, Json.entries_eq, List.forall_mem_cons, List.forall_mem_flatMap]
      exact and_congr_right fun _ => forall₂_congr ih

theorem exists_readAll_iff_reached {entries : List Json} :
    (∃ items, readAll entries = some items) ↔ ∀ v, Json.Reached entries v → v.Listing := by
  simp only [exists_readAll_iff, exists_read_iff_entries, ← Json.mem_flatMap_entries_iff,
    ← List.forall_mem_flatMap]

end Item

namespace Document

/-- A node is that of an entry, and its item holds as many items as there are entries inside. -/
structure Node.From (v : Json) (n : Node) : Prop where
  item : Item.Of v n.item
  inside : n.item.children.length = v.inside.length

/-- The nodes of items that were read are those of the entries, counted up in the same order. -/
theorem from_outlineItems {entries : List Json} {items : List Item}
    (h : Item.readAll entries = some items) (above : List Nat) (handle : Nat) :
    List.Forall₂ Node.From (entries.flatMap Json.entries) (outlineItems above handle items) := by
  -- The items lead, not the entries: what an entry holds is a list only once it was read.
  induction items using Item.forest_induction generalizing entries above handle with
  | nil =>
      cases Item.readAll_eq_some_iff.mp h
      exact .nil
  | cons item items inside behind =>
      obtain _ | ⟨hread, hrest⟩ := Item.readAll_eq_some_iff.mp h
      have hinside := Item.readAll_inside hread
      rw [List.flatMap_cons, Json.entries_eq, List.cons_append, outlineItems_cons]
      refine .cons ⟨Item.of_read hread, ?_⟩ (List.rel_append (inside hinside _ _) ?_)
      · exact (Item.readAll_eq_some_iff.mp hinside).length_eq.symm
      · exact behind (Item.readAll_eq_some_iff.mpr hrest) _ _

/-- An object is shaped like a document that lists the given entries. -/
structure Shaped (source : Json) (entries : List Json) : Prop where
  /-- The entries are listed under the first of the two names that is there. -/
  listed : (source.get? "items").or (source.get? "questionnaire") = some (.arr entries)
  /-- A version, where one is given, is a whole number. -/
  version : ∀ v, source.get? "version" = some v → ∃ n, v = .int n
  inside : ∀ v, Json.Reached entries v → v.Listing

variable {source : Json} {d : Document}

theorem itemsName?_eq (source : Json) :
    (source.get? "items").or (source.get? "questionnaire") =
      (itemsName? source).map source.getD := by
  have hhas (name : String) : source.members.has name = (source.get? name).isSome := rfl
  simp only [itemsName?, List.find?_cons, hhas]
  cases hitems : source.get? "items" with
  | some v => simp [Json.getD, hitems]
  | none => cases hold : source.get? "questionnaire" <;> simp [Json.getD, hold]

theorem readVersion_eq_ok_iff {version : Int} :
    readVersion source = .ok version ↔
      source.get? "version" = none ∧ version = 1 ∨ source.get? "version" = some (.int version) := by
  unfold readVersion
  split
  case h_1 hnone => simp [hnone, eq_comm]
  case h_2 n hsome => simp [hsome]
  case h_3 v hother hsome =>
    have hv : v ≠ .int version := hother version
    simp [hsome, hv]

/-- What a document is read from: its entries are listed, and its version and its items are read. -/
theorem ofObject_eq_ok_iff :
    ofObject source = .ok d ↔ ∃ entries,
      (source.get? "items").or (source.get? "questionnaire") = some (.arr entries) ∧
        readVersion source = .ok d.version ∧ Item.readAll entries = some d.items := by
  rw [itemsName?_eq]
  unfold ofObject
  cases itemsName? source with
  | none => simp
  | some name =>
      simp only [Option.map_some, Option.some.injEq]
      cases source.getD name with
      | arr entries =>
          cases readVersion source with
          | error e => simp [bind, Except.bind]
          | ok version =>
              obtain ⟨version', items'⟩ := d
              cases hitems : Item.readAll entries <;> simp [hitems, bind, Except.bind]
      | null | bool | int | float | str | obj => simp

/-- **An object is read as a document if and only if it is shaped like one.** -/
theorem exists_ofObject_iff :
    (∃ d, ofObject source = .ok d) ↔ ∃ entries, Shaped source entries := by
  constructor
  · rintro ⟨d, hd⟩
    obtain ⟨entries, hlisted, hversion, hitems⟩ := ofObject_eq_ok_iff.mp hd
    refine ⟨entries, hlisted, fun v hv => ?_, Item.exists_readAll_iff_reached.mp ⟨_, hitems⟩⟩
    rcases readVersion_eq_ok_iff.mp hversion with ⟨hnone, -⟩ | hsome
    · rw [hnone] at hv
      cases hv
    · exact ⟨_, Option.some.inj (hv.symm.trans hsome)⟩
  · rintro ⟨entries, hlisted, hversion, hinside⟩
    obtain ⟨items, hitems⟩ := Item.exists_readAll_iff_reached.mpr hinside
    obtain ⟨version, hread⟩ : ∃ version, readVersion source = .ok version := by
      simp only [readVersion_eq_ok_iff]
      cases hv : source.get? "version" with
      | none => exact ⟨1, .inl ⟨rfl, rfl⟩⟩
      | some v =>
          obtain ⟨n, rfl⟩ := hversion v hv
          exact ⟨n, .inr rfl⟩
    exact ⟨⟨version, items⟩, ofObject_eq_ok_iff.mpr ⟨entries, hlisted, hread, hitems⟩⟩

theorem fault_of_readVersion {fault : Fault} (h : readVersion source = .error fault) :
    fault = .version := by
  unfold readVersion at h
  split at h
  case h_3 =>
    cases h
    rfl
  all_goals cases h

/-- What keeps an object from being a document lies in its frame. -/
theorem fault_of_ofObject {fault : Fault} (h : ofObject source = .error fault) :
    fault = .noItems ∨ (∃ name, fault = .items name) ∨ fault = .version ∨ fault = .children := by
  unfold ofObject at h
  split at h
  case h_1 =>
    cases h
    exact .inl rfl
  case h_2 name _ =>
    split at h
    case h_1 entries _ =>
      cases hversion : readVersion source with
      | error e =>
          rw [hversion] at h
          cases h
          exact .inr (.inr (.inl (fault_of_readVersion hversion)))
      | ok version =>
          simp only [hversion, bind, Except.bind] at h
          split at h
          case h_1 => cases h
          case h_2 =>
            cases h
            exact .inr (.inr (.inr rfl))
    case h_2 =>
      cases h
      exact .inr (.inl ⟨name, rfl⟩)

end Document

end Questionnaire
