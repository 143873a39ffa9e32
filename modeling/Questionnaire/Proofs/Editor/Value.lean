/-
Trees and values.

A value that is added is taken apart into a tree, `read`: the objects under the slots of its type
become trees inside, what else stands there is passed over, and everything else stays with the
attributes.  The handles are given out in reading order from a number on, `handles_read`.

The other way round a tree is written as a value, `toJson`, and that value is read as an item of
the same shape, `read_toJson`.  This rests on the attributes being tidy: an item with slots keeps
nothing of its own under their names.
-/
import Questionnaire.Proofs.Editor.Forest
import Questionnaire.Proofs.Editor.Standing

namespace Questionnaire

namespace Item

variable {ms : Entries Json}

/-! ### Reading an object by its type -/

theorem read_of_block (h : ms.get? "type" = some (.str "block")) :
    read (.obj ms) = (readSlot "items" ms).bind fun items =>
      some (.block (Json.getD (.obj ms) "text").text (Json.getD (.obj ms) "cond") items) := by
  have htype : ms.lookup "type" = some (.str "block") := h
  rw [read, htype]
  rfl

theorem read_of_yesNo (h : ms.get? "type" = some (.str "yesno")) :
    read (.obj ms) = (readSlot "yes" ms).bind fun yes => (readSlot "no" ms).bind fun no =>
      some (.yesNo (readQuestion (.obj ms)) yes no) := by
  have htype : ms.lookup "type" = some (.str "yesno") := h
  rw [read, htype]
  rfl

theorem read_of_leaf (hblock : ms.get? "type" ≠ some (.str "block"))
    (hyesNo : ms.get? "type" ≠ some (.str "yesno")) :
    read (.obj ms) = some (readLeaf (.obj ms)) := by
  rw [read]
  split
  · next h => exact absurd h hblock
  · next h => exact absurd h hyesNo
  · rfl

end Item

namespace Editor

/-! ### Attributes of an item with slots -/

namespace Slot

theorem ofAttributes_of_ofType {attributes : Entries Json} {slots : List Slot}
    (h : ofType ((attributes.get? "type").getD .null) = .ok slots) :
    ofAttributes attributes = slots := by
  rw [ofAttributes, h]

theorem ofAttributes_congr {attributes other : Entries Json}
    (h : attributes.get? "type" = other.get? "type") :
    ofAttributes attributes = ofAttributes other := by
  rw [ofAttributes, ofAttributes, h]

/-- An item has the one slot of a block, the two of a yes/no question, or none. -/
theorem ofAttributes_cases (attributes : Entries Json) :
    (attributes.get? "type" = some (.str "block") ∧ ofAttributes attributes = [.items]) ∨
      (attributes.get? "type" = some (.str "yesno") ∧ ofAttributes attributes = [.yes, .no]) ∨
      (attributes.get? "type" ≠ some (.str "block") ∧
        attributes.get? "type" ≠ some (.str "yesno") ∧ ofAttributes attributes = []) := by
  rw [ofAttributes]
  cases hfound : attributes.get? "type" with
  | none => exact Or.inr (Or.inr ⟨by simp, by simp, rfl⟩)
  | some type =>
      cases type with
      | str name =>
          by_cases hblock : name = "block"
          · exact Or.inl ⟨by rw [hblock], by rw [hblock]; rfl⟩
          · by_cases hyesNo : name = "yesno"
            · exact Or.inr (Or.inl ⟨by rw [hyesNo], by rw [hyesNo]; rfl⟩)
            · refine Or.inr (Or.inr ⟨by simp [hblock], by simp [hyesNo], ?_⟩)
              rw [Option.getD_some, ofType]
              · simpa using hblock
              · simpa using hyesNo
              · simp
              · simp
      | null | bool | int | float | arr | obj => exact Or.inr (Or.inr ⟨by simp, by simp, rfl⟩)

theorem nodup_ofAttributes (attributes : Entries Json) : (ofAttributes attributes).Nodup := by
  rcases ofAttributes_cases attributes with ⟨-, h⟩ | ⟨-, h⟩ | ⟨-, -, h⟩ <;> rw [h] <;> decide

theorem name_injective {slot other : Slot} (h : slot.name = other.name) : slot = other := by
  revert h
  cases slot <;> cases other <;> decide

theorem name_ne_type (slot : Slot) : slot.name ≠ "type" := by
  cases slot <;> decide

/-- What an item keeps of its own: everything but what stands under the names of its slots. -/
def own (ms : Entries Json) : Entries Json :=
  ms.filter fun m => !(ofAttributes ms).any (·.name = m.1)

/-- An item keeps nothing of its own under the names of its slots. -/
def Tidy (attributes : Entries Json) : Prop :=
  ∀ slot ∈ ofAttributes attributes, attributes.get? slot.name = none

theorem tidy_of_no_slots {attributes : Entries Json} (h : ofAttributes attributes = []) :
    Tidy attributes := by
  intro slot hslot
  rw [h] at hslot
  cases hslot

theorem get?_own (ms : Entries Json) (name : String) :
    (own ms).get? name = if (ofAttributes ms).any (·.name = name) then none else ms.get? name := by
  rw [own, Entries.get?_filter (fun n => !(ofAttributes ms).any (·.name = n))]
  cases (ofAttributes ms).any (·.name = name) <;> rfl

theorem ofAttributes_own (ms : Entries Json) : ofAttributes (own ms) = ofAttributes ms := by
  refine ofAttributes_congr ?_
  rw [get?_own, if_neg]
  simp [name_ne_type]

theorem tidy_own (ms : Entries Json) : Tidy (own ms) := by
  intro slot hslot
  rw [ofAttributes_own] at hslot
  rw [get?_own, if_pos]
  exact List.any_eq_true.mpr ⟨slot, hslot, decide_eq_true rfl⟩

end Slot

namespace Tree

variable {t n : Tree} {ts us : List Tree}

/-! ### Reading a value -/

/-- The node alone, with nothing inside. -/
def leaf (handle : Nat) (attributes : Entries Json) : Tree := .node handle attributes fun _ => []

@[simp] theorem allNodes_leaf (k : Nat) (own : Entries Json) :
    allNodes [leaf k own] = [leaf k own] := by
  simp [allNodes, leaf, nodes, Slot.all]

/-- Trees by the slots they are in. -/
def filled (items yes no : List Tree) : Slot → List Tree
  | .items => items
  | .yes => yes
  | .no => no

mutual

/-- The tree that is made of an object, with handles from a number on. -/
def read (first : Nat) : Json → Tree
  | .obj ms =>
    let under (next : Nat) (slot : Slot) : List Tree :=
      if (Slot.ofAttributes ms).contains slot then readSlot next slot ms else []
    let items := under (first + 1) .items
    let yes := under (first + 1 + (allHandles items).length) .yes
    let no := under (first + 1 + (allHandles items).length + (allHandles yes).length) .no
    .node first (Slot.own ms) (filled items yes no)
  | _ => leaf first []

/-- The trees that are made of what stands under a slot. -/
def readSlot (first : Nat) (slot : Slot) : List (String × Json) → List Tree
  | [] => []
  | (name, v) :: ms => if name = slot.name then readChildren first v else readSlot first slot ms

def readChildren (first : Nat) : Json → List Tree
  | .arr vs => readAll first vs
  | _ => []

/-- The trees that are made of the objects in a list. -/
def readAll (first : Nat) : List Json → List Tree
  | [] => []
  | v :: vs =>
    if v.isObject then
      let t := read first v
      t :: readAll (first + t.handles.length) vs
    else readAll first vs

end

theorem edit_leaf_items (k : Nat) (own : Entries Json) (us : List Tree) :
    (leaf k own).edit k .items (· ++ us) = .node k own (filled us [] []) := by
  rw [leaf, edit]
  refine congrArg _ (funext fun slot => ?_)
  cases slot <;> simp [filled]

theorem edit_leaf_yes (k : Nat) (own : Entries Json) (us : List Tree) :
    (leaf k own).edit k .yes (· ++ us) = .node k own (filled [] us []) := by
  rw [leaf, edit]
  refine congrArg _ (funext fun slot => ?_)
  cases slot <;> simp [filled]

theorem edit_filled_no (k : Nat) (own : Entries Json) (us vs : List Tree) :
    edit k .no (· ++ vs) (.node k own (filled [] us [])) = .node k own (filled [] us vs) := by
  rw [edit]
  refine congrArg _ (funext fun slot => ?_)
  cases slot <;> simp [filled]

theorem length_handles_filled (k : Nat) (own : Entries Json) (items yes no : List Tree) :
    (Tree.node k own (filled items yes no)).handles.length =
      1 + (allHandles items).length + (allHandles yes).length + (allHandles no).length := by
  rw [handles_eq, List.length_cons, List.length_append, List.length_append]
  show (allHandles items).length + (allHandles yes).length + (allHandles no).length + 1 = _
  omega

/-! What is read of an object, by its slots. -/

section

variable {ms : Entries Json} (first : Nat)

theorem read_of_no_slots (h : Slot.ofAttributes ms = []) :
    read first (.obj ms) = leaf first (Slot.own ms) := by
  rw [read, h, leaf]
  refine congrArg _ (funext fun slot => ?_)
  cases slot <;> rfl

theorem read_of_block (h : Slot.ofAttributes ms = [.items]) :
    read first (.obj ms) =
      .node first (Slot.own ms) (filled (readSlot (first + 1) .items ms) [] []) := by
  rw [read, h]
  rfl

theorem read_of_yesNo (h : Slot.ofAttributes ms = [.yes, .no]) :
    read first (.obj ms) = .node first (Slot.own ms)
      (filled [] (readSlot (first + 1) .yes ms)
        (readSlot (first + 1 + (allHandles (readSlot (first + 1) .yes ms)).length) .no ms)) := by
  rw [read, h]
  rfl

end

/-- The handles of trees side by side are given out in reading order from a number on. -/
def NumberedFrom (first : Nat) (ts : List Tree) : Prop :=
  allHandles ts = List.range' first (allHandles ts).length

theorem NumberedFrom.append {first : Nat} (hts : NumberedFrom first ts)
    (hus : NumberedFrom (first + (allHandles ts).length) us) : NumberedFrom first (ts ++ us) := by
  unfold NumberedFrom
  rw [allHandles_append, List.length_append, ← List.range'_append_1, ← hts, ← hus]

theorem NumberedFrom.node {first : Nat} {items yes no : List Tree} (own : Entries Json)
    (h : NumberedFrom (first + 1) (items ++ yes ++ no)) :
    NumberedFrom first [.node first own (filled items yes no)] := by
  unfold NumberedFrom at h ⊢
  have hhandles : allHandles [.node first own (filled items yes no)] =
      first :: allHandles (items ++ yes ++ no) := by
    rw [allHandles_cons, handles_eq, allHandles_append, allHandles_append, allHandles_nil,
      List.append_nil]
    rfl
  rw [hhandles, List.length_cons, List.range'_succ, ← h]

mutual

theorem numberedFrom_read (first : Nat) (v : Json) : NumberedFrom first [read first v] := by
  cases v with
  | obj ms =>
      have hunder : ∀ next slot, NumberedFrom next
          (if (Slot.ofAttributes ms).contains slot then readSlot next slot ms else []) := by
        intro next slot
        split
        · exact numberedFrom_readSlot next slot ms
        · rfl
      rw [read]
      refine NumberedFrom.node _ (NumberedFrom.append ((hunder _ _).append (hunder _ _)) ?_)
      rw [allHandles_append, List.length_append, ← Nat.add_assoc]
      exact hunder _ _
  | null | bool | int | float | str | arr => rfl

theorem numberedFrom_readSlot (first : Nat) (slot : Slot) (ms : List (String × Json)) :
    NumberedFrom first (readSlot first slot ms) := by
  cases ms with
  | nil => rfl
  | cons m ms =>
      obtain ⟨name, v⟩ := m
      rw [readSlot]
      split
      · exact numberedFrom_readChildren first v
      · exact numberedFrom_readSlot first slot ms

theorem numberedFrom_readChildren (first : Nat) (v : Json) :
    NumberedFrom first (readChildren first v) := by
  cases v with
  | arr vs => exact numberedFrom_readAll first vs
  | null | bool | int | float | str | obj => rfl

theorem numberedFrom_readAll (first : Nat) (vs : List Json) :
    NumberedFrom first (readAll first vs) := by
  cases vs with
  | nil => rfl
  | cons v vs =>
      rw [readAll]
      split
      · have hread := numberedFrom_read first v
        have hrest := numberedFrom_readAll (first + (read first v).handles.length) vs
        refine hread.append ?_
        rwa [allHandles_singleton]
      · exact numberedFrom_readAll first vs

end

/-! ### Writing a value -/

mutual

/-- The value that describes a node and what it holds: a slot is left out where it holds nothing,
save in a block. -/
def toJson : Tree → Json
  | .node _ attributes inside =>
    .obj (Entries.setAll attributes ((Slot.ofAttributes attributes).filterMap fun slot =>
      if (inside slot).isEmpty && slot ≠ .items then none
      else some (slot.name, .arr (allToJson (inside slot)))))

def allToJson : List Tree → List Json
  | [] => []
  | t :: ts => toJson t :: allToJson ts

end

mutual

/-- The item that a node and what it holds stand for. -/
def toItem : Tree → Item
  | .node _ attributes inside =>
    match attributes.get? "type" with
    | some (.str "block") =>
      .block (Json.getD (.obj attributes) "text").text (Json.getD (.obj attributes) "cond")
        (allToItem (inside .items))
    | some (.str "yesno") =>
      .yesNo (Item.readQuestion (.obj attributes)) (allToItem (inside .yes))
        (allToItem (inside .no))
    | _ => Item.readLeaf (.obj attributes)

def allToItem : List Tree → List Item
  | [] => []
  | t :: ts => toItem t :: allToItem ts

end

theorem allToJson_eq_map (ts : List Tree) : allToJson ts = ts.map toJson := by
  induction ts with
  | nil => rfl
  | cons t ts ih => rw [allToJson, ih, List.map_cons]

/-- What is written for the slots of a node. -/
def slotEntries (slots : List Slot) (inside : Slot → List Tree) : Entries Json :=
  slots.filterMap fun slot =>
    if (inside slot).isEmpty && slot ≠ .items then none
    else some (slot.name, .arr (allToJson (inside slot)))

theorem names_slotEntries (slots : List Slot) (inside : Slot → List Tree) :
    (slotEntries slots inside).names.Sublist (slots.map Slot.name) := by
  induction slots with
  | nil => exact List.nil_sublist _
  | cons slot slots ih =>
      rw [slotEntries, List.filterMap_cons]
      by_cases hempty : ((inside slot).isEmpty && decide (slot ≠ .items)) = true
      · rw [if_pos hempty]
        exact ih.cons _
      · rw [if_neg hempty]
        exact ih.cons_cons _

/-- A node with tidy attributes is written as its attributes and its slots after them. -/
theorem toJson_of_tidy {handle : Nat} {attributes : Entries Json} {inside : Slot → List Tree}
    (h : Slot.Tidy attributes) :
    toJson (.node handle attributes inside) =
      .obj (attributes ++ slotEntries (Slot.ofAttributes attributes) inside) := by
  have hnames := names_slotEntries (Slot.ofAttributes attributes) inside
  rw [toJson]
  refine congrArg Json.obj (Entries.setAll_of_get?_eq_none ?_ ?_)
  · intro name hname
    obtain ⟨slot, hslot, rfl⟩ := List.mem_map.mp (hnames.subset hname)
    exact h slot hslot
  · refine hnames.nodup ((Slot.nodup_ofAttributes attributes).map ?_)
    exact fun _ _ => Slot.name_injective

theorem get?_slotEntries_block (inside : Slot → List Tree) :
    (slotEntries [.items] inside).get? "items" = some (.arr (allToJson (inside .items))) := by
  simp [slotEntries, Slot.name, Entries.get?_cons]

theorem get?_slotEntries_yesNo (inside : Slot → List Tree) :
    (slotEntries [.yes, .no] inside).get? "yes" =
        (if (inside .yes).isEmpty then none else some (.arr (allToJson (inside .yes)))) ∧
      (slotEntries [.yes, .no] inside).get? "no" =
        (if (inside .no).isEmpty then none else some (.arr (allToJson (inside .no)))) := by
  by_cases hyes : inside .yes = [] <;> by_cases hno : inside .no = [] <;>
    simp [slotEntries, Slot.name, hyes, hno, Entries.get?_cons]

theorem get?_slotEntries_of_ne (slots : List Slot) (inside : Slot → List Tree) {name : String}
    (h : name ∉ Slot.all.map Slot.name) : (slotEntries slots inside).get? name = none := by
  refine List.lookup_eq_none_iff.mpr fun entry hentry => ?_
  obtain ⟨slot, -, hslot⟩ := List.mem_map.mp
    ((names_slotEntries slots inside).subset (List.mem_map_of_mem hentry))
  rw [bne_iff_ne]
  rintro rfl
  refine h (hslot ▸ List.mem_map_of_mem ?_)
  cases slot <;> decide

/-- A list of children that is left out where it is empty is read as it is. -/
theorem readChildren_written {inside : List Tree}
    (h : Item.readAll (allToJson inside) = some (allToItem inside)) :
    (match (none : Option Json).or
        (if inside.isEmpty then none else some (.arr (allToJson inside))) with
      | some v => Item.readChildren v
      | none => some []) = some (allToItem inside) := by
  cases inside with
  | nil => rfl
  | cons t ts => exact h

/-- What is read of a node's own attributes is read of its value. -/
theorem getD_append_slotEntries (attributes : Entries Json) (slots : List Slot)
    (inside : Slot → List Tree) {name : String} (h : name ∉ Slot.all.map Slot.name) :
    Json.getD (.obj (attributes ++ slotEntries slots inside)) name =
      Json.getD (.obj attributes) name := by
  show ((attributes ++ slotEntries slots inside).get? name).getD .null = _
  rw [Entries.get?_append, get?_slotEntries_of_ne slots inside h, Option.or_none]
  rfl

mutual

/-- **The value of a tree is read as an item of the same shape.** -/
theorem read_toJson {t : Tree} (h : ∀ n ∈ t.nodes, Slot.Tidy n.attributes) :
    Item.read t.toJson = some t.toItem := by
  cases t with
  | node handle attributes inside =>
      have htidy : Slot.Tidy attributes := h _ (self_mem_nodes _)
      have hinside : ∀ slot, Item.readAll (allToJson (inside slot)) =
          some (allToItem (inside slot)) := fun slot =>
        readAll_allToJson fun n hn =>
          h n (allNodes_subset_nodes (.node handle attributes inside) slot n hn)
      have htype : (attributes ++ slotEntries (Slot.ofAttributes attributes) inside).get? "type" =
          attributes.get? "type" := by
        rw [Entries.get?_append, get?_slotEntries_of_ne _ _ (by decide), Option.or_none]
      -- The slots are written after the attributes and do not hide any of them.
      have hfield := fun name => @getD_append_slotEntries attributes
        (Slot.ofAttributes attributes) inside name
      rw [toJson_of_tidy htidy]
      rcases Slot.ofAttributes_cases attributes with
        ⟨hblock, hslots⟩ | ⟨hyesNo, hslots⟩ | ⟨hblock, hyesNo, hslots⟩
      · have hown : attributes.get? "items" = none := htidy .items (by rw [hslots]; decide)
        have hitems : Item.readSlot "items" (attributes ++ slotEntries [.items] inside) =
            some (allToItem (inside .items)) := by
          rw [Item.readSlot_eq, Entries.get?_append, hown, get?_slotEntries_block]
          exact hinside .items
        rw [Item.read_of_block (htype.trans hblock), hfield "text" (by decide),
          hfield "cond" (by decide), hslots, hitems, toItem, hblock]
        rfl
      · have hownYes : attributes.get? "yes" = none := htidy .yes (by rw [hslots]; decide)
        have hownNo : attributes.get? "no" = none := htidy .no (by rw [hslots]; decide)
        have hyes : Item.readSlot "yes" (attributes ++ slotEntries [.yes, .no] inside) =
            some (allToItem (inside .yes)) := by
          rw [Item.readSlot_eq, Entries.get?_append, hownYes, (get?_slotEntries_yesNo inside).1]
          exact readChildren_written (hinside .yes)
        have hno : Item.readSlot "no" (attributes ++ slotEntries [.yes, .no] inside) =
            some (allToItem (inside .no)) := by
          rw [Item.readSlot_eq, Entries.get?_append, hownNo, (get?_slotEntries_yesNo inside).2]
          exact readChildren_written (hinside .no)
        have hquestion : Item.readQuestion
              (.obj (attributes ++ slotEntries (Slot.ofAttributes attributes) inside)) =
            Item.readQuestion (.obj attributes) := by
          rw [Item.readQuestion, hfield "id" (by decide), hfield "text" (by decide),
            hfield "required" (by decide), hfield "cond" (by decide), Item.readQuestion]
        rw [Item.read_of_yesNo (htype.trans hyesNo), hquestion, hslots, hyes, hno, toItem, hyesNo]
        rfl
      · have hnone : slotEntries [] inside = [] := rfl
        rw [hslots, hnone, List.append_nil, Item.read_of_leaf hblock hyesNo, toItem]
        split
        · next heq => exact absurd heq hblock
        · next heq => exact absurd heq hyesNo
        · rfl

theorem readAll_allToJson {ts : List Tree} (h : ∀ n ∈ allNodes ts, Slot.Tidy n.attributes) :
    Item.readAll (allToJson ts) = some (allToItem ts) := by
  cases ts with
  | nil => rfl
  | cons t ts =>
      rw [allNodes] at h
      have hitem := read_toJson fun n hn => h n (List.mem_append_left _ hn)
      have hitems := readAll_allToJson fun n hn => h n (List.mem_append_right _ hn)
      rw [allToJson, Item.readAll, hitem, hitems, allToItem]
      rfl

end

end Tree

end Editor

end Questionnaire
