/-
A document as an arena.

Whoever works with a document goes by handles.  It is taken for a list of nodes, a list of parents
and a list of children under each slot of each node, and these have to tell of one tree.
`numbered_in_order` says that they do, for every document.  A handle is the index of its node, the
parent of a handle is the one node that has it among its children, no handle is missing or listed
twice, and going down through the children passes the handles one after the other.

What is said of a document is shown of items that stand side by side.  An item takes the handle that
comes first, what it holds the handles that follow, and what stands behind it those that are left:
`Item.forest_induction` goes the same way.

An arena can also be filled item by item, a slot being reserved for an item before what it holds is
put in.  `putItems_empty` says that this makes the same lists.
-/
import Questionnaire.Proofs.Editor.Faithful

namespace Questionnaire

open Editor (Slot)

namespace Item

/-! ### Items side by side -/

theorem sizes_append (items more : List Item) :
    sizes (items ++ more) = sizes items + sizes more := by
  induction items with
  | nil => exact (Nat.zero_add _).symm
  | cons item items ih => rw [List.cons_append, sizes, ih, sizes, Nat.add_assoc]

/-- An item counts besides what it holds. -/
theorem size_eq (item : Item) : item.size = sizes item.children + 1 := by
  cases item with
  | block text cond items => rfl
  | yesNo q yes no => rw [size, children, sizes_append]
  | info | tip | spacer | line | box | check | radio | radioGroup | checkGroup | unknown => rfl

/-- What holds of no items, and of an item and those behind it whenever it holds of what the item
holds and of those behind it, holds of all items that stand side by side. -/
@[elab_as_elim]
theorem forest_induction {motive : List Item → Prop} (nil : motive [])
    (cons : ∀ item items, motive item.children → motive items → motive (item :: items)) :
    ∀ items, motive items
  | [] => nil
  | item :: items =>
    cons item items (forest_induction nil cons item.children) (forest_induction nil cons items)
termination_by items => sizes items
decreasing_by all_goals (rw [sizes, size_eq]; omega)

end Item

namespace Document

variable {d : Document} {above : List Nat} {handle : Nat} {n : Node}

theorem outlineItems_append (above : List Nat) (handle : Nat) (items more : List Item) :
    outlineItems above handle (items ++ more) =
      outlineItems above handle items ++ outlineItems above (handle + Item.sizes items) more := by
  induction items generalizing handle with
  | nil => rfl
  | cons item items ih =>
      rw [List.cons_append, outlineItems, ih, outlineItems, Item.sizes, List.append_assoc,
        Nat.add_assoc]

/-- An item comes before what it holds. -/
theorem outlineItem_eq (above : List Nat) (handle : Nat) (item : Item) :
    outlineItem above handle item =
      ⟨handle, above, item⟩ :: outlineItems (handle :: above) (handle + 1) item.children := by
  cases item with
  | block text cond items => rfl
  | yesNo q yes no => rw [outlineItem, Item.children, outlineItems_append, List.cons_append]
  | info | tip | spacer | line | box | check | radio | radioGroup | checkGroup | unknown => rfl

theorem outlineItems_cons (above : List Nat) (handle : Nat) (item : Item) (items : List Item) :
    outlineItems above handle (item :: items) =
      ⟨handle, above, item⟩ :: (outlineItems (handle :: above) (handle + 1) item.children ++
        outlineItems above (handle + item.size) items) := by
  rw [outlineItems, outlineItem_eq, List.cons_append]

/-- With an item its whole subtree is in an outline. -/
theorem outlineItem_subset {items : List Item} (hn : n ∈ outlineItems above handle items) :
    outlineItem n.above n.handle n.item ⊆ outlineItems above handle items := by
  induction items using Item.forest_induction generalizing above handle with
  | nil => cases hn
  | cons item items inside behind =>
      rcases mem_outlineItems_cons.mp hn with hitem | hbehind
      · refine List.Subset.trans ?_ (List.subset_append_left _ _)
        rw [outlineItem_eq above handle item] at hitem ⊢
        rcases List.mem_cons.mp hitem with rfl | hinside
        · rw [outlineItem_eq]
          exact List.Subset.refl _
        · exact List.subset_cons_of_subset _ (inside hinside)
      · exact List.subset_append_of_subset_right _ (behind hbehind)

theorem inside_subset (hn : n ∈ d.outline) :
    outlineItems (n.handle :: n.above) (n.handle + 1) n.item.children ⊆ d.outline := by
  have hsubtree := outlineItem_subset hn
  rw [outlineItem_eq] at hsubtree
  exact List.Subset.trans (List.subset_cons_self _ _) hsubtree

theorem mem_of_node? {h : Nat} (hn : d.node? h = some n) : n ∈ d.outline :=
  List.mem_of_getElem? hn

/-- The index of a node is its handle. -/
theorem handle_of_node? {h : Nat} (hn : d.node? h = some n) : n.handle = h := by
  have hwalk : d.walk[h]? = some n.handle := by
    rw [walk, List.getElem?_map, show d.outline[h]? = some n from hn]
    rfl
  rw [walk_eq_range'] at hwalk
  obtain ⟨hlt, heq⟩ := List.getElem?_eq_some_iff.mp hwalk
  rw [List.getElem_range'] at heq
  omega

/-! ### Parents and children -/

/-- Items that stand side by side have nodes, which stand in the same. -/
theorem exists_of_mem_handlesFrom (above : List Nat) {items : List Item} {h : Nat}
    (hh : h ∈ handlesFrom handle items) :
    ∃ n ∈ outlineItems above handle items, n.handle = h ∧ n.above = above := by
  induction items generalizing handle with
  | nil => cases hh
  | cons item items ih =>
      rw [outlineItems_cons]
      rcases List.mem_cons.mp hh with rfl | hbehind
      · exact ⟨_, List.mem_cons_self, rfl, rfl⟩
      · obtain ⟨n, hn, hplace⟩ := ih hbehind
        exact ⟨n, List.mem_cons_of_mem _ (List.mem_append_right _ hn), hplace⟩

/-- What stands at the top stands in nothing. -/
theorem parent?_of_mem_roots {h : Nat} (hroot : h ∈ d.roots) : d.parent? h = none := by
  obtain ⟨n, hn, rfl, habove⟩ := exists_of_mem_handlesFrom [] hroot
  rw [parent?, node?_of_mem hn, Option.bind_some, Node.parent, habove]
  rfl

theorem parent?_of_mem_children {h : Nat} (hn : n ∈ d.outline) (hchild : h ∈ n.children) :
    d.parent? h = some n.handle := by
  obtain ⟨k, hk, rfl, habove⟩ := exists_of_mem_handlesFrom (n.handle :: n.above) hchild
  rw [parent?, node?_of_mem (inside_subset hn hk), Option.bind_some, Node.parent, habove]
  rfl

/-- A node is at the top, or among the children of its parent. -/
theorem mem_roots_or_children (hn : n ∈ d.outline) :
    n.handle ∈ d.roots ∨ ∃ y ∈ d.outline, n.handle ∈ y.children ∧ n.parent = some y.handle := by
  refine (under_outlineItems [] 0 d.items n hn).imp And.left ?_
  rintro ⟨y, hy, slot, hslot, hparent⟩
  refine ⟨y, hy, ?_, hparent⟩
  rw [← y.flatMap_slotted]
  exact List.mem_flatMap.mpr ⟨slot, by cases slot <;> decide, hslot⟩

/-- An item has no parent if and only if it is at the top. -/
theorem parent?_eq_none_iff {h : Nat} (hh : h < d.size) : d.parent? h = none ↔ h ∈ d.roots := by
  obtain ⟨n, hn, rfl⟩ := exists_node_iff.mpr hh
  refine ⟨fun hnone => ?_, parent?_of_mem_roots⟩
  rcases mem_roots_or_children hn with hroot | ⟨y, hy, hchild, -⟩
  · exact hroot
  · rw [parent?_of_mem_children hy hchild] at hnone
    cases hnone

/-- The parent of an item is the node that has the item among its children. -/
theorem parent?_eq_some_iff {h p : Nat} :
    d.parent? h = some p ↔ ∃ n, d.node? p = some n ∧ h ∈ n.children := by
  constructor
  · intro hparent
    obtain ⟨n, hn, hnparent⟩ := Option.bind_eq_some_iff.mp hparent
    obtain rfl := handle_of_node? hn
    rcases mem_roots_or_children (mem_of_node? hn) with hroot | ⟨y, hy, hchild, hyparent⟩
    · rw [parent?_of_mem_roots hroot] at hparent
      cases hparent
    · obtain rfl := Option.some.inj (hnparent.symm.trans hyparent)
      exact ⟨y, node?_of_mem hy, hchild⟩
  · rintro ⟨n, hn, hchild⟩
    rw [parent?_of_mem_children (mem_of_node? hn) hchild, handle_of_node? hn]

theorem lt_of_mem_children {h : Nat} (hchild : h ∈ n.children) : n.handle < h :=
  (bounds_of_mem_handlesFrom hchild).1

/-- The first handles of some items and the children of all their nodes are all handles there are,
each of them once. -/
theorem perm_handles (above : List Nat) (handle : Nat) (items : List Item) :
    (handlesFrom handle items ++ (outlineItems above handle items).flatMap Node.children).Perm
      (List.range' handle (Item.sizes items)) := by
  induction items using Item.forest_induction generalizing above handle with
  | nil => exact List.Perm.nil
  | cons item items inside behind =>
      have hinside := inside (handle :: above) (handle + 1)
      have hbehind := behind above (handle + item.size)
      have hrange : List.range' handle (Item.sizes (item :: items)) =
          handle :: (List.range' (handle + 1) (Item.sizes item.children) ++
            List.range' (handle + item.size) (Item.sizes items)) := by
        rw [Item.sizes, Item.size_eq, ← List.cons_append, ← List.range'_succ, List.range'_append_1]
      rw [outlineItems_cons, List.flatMap_cons, List.flatMap_append, handlesFrom, hrange,
        List.cons_append, ← List.append_assoc (Node.children _)]
      -- The handles behind the item stand before what it holds, and change places with it.
      refine ((List.perm_append_comm_assoc _ _ _).trans ?_).cons _
      exact hinside.append hbehind

/-! ### Going down -/

/-- A walk from some handles: each of them, followed by the walk from what its node holds. -/
inductive Walks (d : Document) : List Nat → List Nat → Prop
  | nil : Walks d [] []
  | cons {h : Nat} {n : Node} {handles inner rest : List Nat} (node : d.node? h = some n)
      (inside : Walks d n.children inner) (behind : Walks d handles rest) :
      Walks d (h :: handles) (h :: (inner ++ rest))

/-- There is no more than one walk from some handles. -/
theorem Walks.unique {handles way way' : List Nat} (h : Walks d handles way)
    (h' : Walks d handles way') : way = way' := by
  induction h generalizing way' with
  | nil =>
      cases h'
      rfl
  | cons node inside behind ihinside ihbehind =>
      cases h' with
      | cons node' inside' behind' =>
          obtain rfl := Option.some.inj (node.symm.trans node')
          rw [ihinside inside', ihbehind behind']

theorem Walks.append {handles more way way' : List Nat} (h : Walks d handles way)
    (h' : Walks d more way') : Walks d (handles ++ more) (way ++ way') := by
  induction h with
  | nil => exact h'
  | cons node inside behind _ ih =>
      rw [List.cons_append, List.cons_append, List.append_assoc]
      exact .cons node inside ih

/-- A walk starts from nodes of the document. -/
theorem Walks.exists_nodes {handles way : List Nat} (h : Walks d handles way) :
    ∃ nodes, nodes ⊆ d.outline ∧ nodes.map Node.handle = handles := by
  induction h with
  | nil => exact ⟨[], List.nil_subset _, rfl⟩
  | @cons h n handles inner rest node inside behind _ ih =>
      obtain ⟨nodes, hnodes, hhandles⟩ := ih
      refine ⟨n :: nodes, List.cons_subset.mpr ⟨mem_of_node? node, hnodes⟩, ?_⟩
      rw [List.map_cons, handle_of_node? node, hhandles]

/-- The walk through items that stand side by side counts up. -/
theorem walks_outlineItems {items : List Item}
    (hsub : outlineItems above handle items ⊆ d.outline) :
    Walks d (handlesFrom handle items) (List.range' handle (Item.sizes items)) := by
  induction items using Item.forest_induction generalizing above handle with
  | nil => exact .nil
  | cons item items inside behind =>
      rw [outlineItems_cons, List.cons_subset, List.append_subset] at hsub
      obtain ⟨htop, hinside, hbehind⟩ := hsub
      rw [Item.sizes, ← List.range'_append_1, Item.size_eq, List.range'_succ, List.cons_append,
        ← Item.size_eq]
      exact .cons (node?_of_mem htop) (inside hinside) (behind hbehind)

theorem subtree_eq_range' (n : Node) : n.subtree = List.range' n.handle n.item.size :=
  handles_outlineItem n.above n.handle n.item

/-- The walk from a node goes through its subtree. -/
theorem walks_subtree (hn : n ∈ d.outline) : Walks d [n.handle] n.subtree := by
  have hinside : Walks d n.children _ := walks_outlineItems (inside_subset hn)
  have hwalk := Walks.cons (node?_of_mem hn) hinside .nil
  rwa [List.append_nil, ← List.range'_succ, ← Item.size_eq, ← subtree_eq_range'] at hwalk

theorem walks_nodes {nodes : List Node} (hnodes : nodes ⊆ d.outline) :
    Walks d (nodes.map Node.handle) (nodes.flatMap Node.subtree) := by
  induction nodes with
  | nil => exact .nil
  | cons n nodes ih =>
      obtain ⟨hn, hrest⟩ := List.cons_subset.mp hnodes
      exact (walks_subtree hn).append (ih hrest)

/-- The walk from the top goes through the whole document. -/
theorem walks_roots (d : Document) : Walks d d.roots d.walk := by
  rw [walk_eq_range']
  exact walks_outlineItems (List.Subset.refl d.outline)

/-- Where a step succeeds for all of a list, it succeeds for each of its members. -/
theorem exists_of_mapM_ok {α β ε : Type} {f : α → Except ε β} {as : List α} {bs : List β}
    (h : as.mapM f = .ok bs) : ∀ a ∈ as, ∃ b, f a = .ok b := by
  induction as generalizing bs with
  | nil => exact List.forall_mem_nil _
  | cons a as ih =>
      rw [List.mapM_cons] at h
      cases hfirst : f a with
      | error e =>
          rw [hfirst] at h
          cases h
      | ok b =>
          cases hrest : as.mapM f with
          | error e =>
              rw [hfirst, hrest] at h
              cases h
          | ok cs => exact List.forall_mem_cons.mpr ⟨⟨b, hfirst⟩, ih hrest⟩

/-- The walk through the subtree of one handle, which is counted from the end where it is
negative. -/
def walkOne (d : Document) (h : Int) : Except Misfit (List Int) :=
  let place := if h < 0 then h + (d.size : Int) else h
  match if 0 ≤ place then d.node? place.toNat else none with
  | some n => .ok (h :: n.subtree.tail.map Int.ofNat)
  | none => .error .position

theorem walkFrom_eq (d : Document) (handles : List Int) :
    d.walkFrom handles = (handles.mapM d.walkOne).map List.flatten := by
  have hparts : d.walkFrom handles = handles.mapM d.walkOne >>= fun parts => pure parts.flatten :=
    rfl
  rw [hparts]
  cases handles.mapM d.walkOne <;> rfl

theorem walkOne_ofNat (d : Document) (h : Nat) :
    d.walkOne (Int.ofNat h) =
      match d.node? h with
      | some n => .ok (n.subtree.map Int.ofNat)
      | none => .error .position := by
  have hplace : (if Int.ofNat h < 0 then Int.ofNat h + (d.size : Int) else Int.ofNat h) = h :=
    if_neg (Int.not_lt.mpr (Int.natCast_nonneg h))
  rw [walkOne, hplace, if_pos (Int.natCast_nonneg h), Int.toNat_natCast]
  cases hn : d.node? h with
  | none => rfl
  | some n =>
      obtain rfl := handle_of_node? hn
      have hhead : n.subtree = n.handle :: n.subtree.tail := by
        rw [subtree_eq_range', Item.size_eq, List.range'_succ, List.tail_cons]
      exact congrArg (fun way : List Nat => Except.ok (way.map Int.ofNat)) hhead.symm

/-- Walking from some nodes goes through the subtree of one after the other. -/
theorem walkFrom_nodes {nodes : List Node} (hnodes : nodes ⊆ d.outline) :
    d.walkFrom ((nodes.map Node.handle).map Int.ofNat) =
      .ok ((nodes.flatMap Node.subtree).map Int.ofNat) := by
  have hparts : ((nodes.map Node.handle).map Int.ofNat).mapM d.walkOne =
      .ok (nodes.map fun n => n.subtree.map Int.ofNat) := by
    induction nodes with
    | nil => rfl
    | cons n nodes ih =>
        obtain ⟨hn, hrest⟩ := List.cons_subset.mp hnodes
        rw [List.map_cons, List.map_cons, List.mapM_cons, ih hrest, walkOne_ofNat, node?_of_mem hn]
        rfl
  rw [walkFrom_eq, hparts, List.map_flatMap, List.flatMap_def]
  rfl

/-- Only nodes can be walked from. -/
theorem exists_nodes_of_walkFrom {handles : List Nat} {way : List Int}
    (h : d.walkFrom (handles.map Int.ofNat) = .ok way) :
    ∃ nodes, nodes ⊆ d.outline ∧ nodes.map Node.handle = handles := by
  rw [walkFrom_eq] at h
  cases hparts : (handles.map Int.ofNat).mapM d.walkOne with
  | error e =>
      rw [hparts] at h
      cases h
  | ok parts =>
      -- From here on it only matters that each handle can be walked from.
      have hall := exists_of_mapM_ok hparts
      clear h hparts
      induction handles with
      | nil => exact ⟨[], List.nil_subset _, rfl⟩
      | cons k handles ih =>
          obtain ⟨⟨part, hpart⟩, hrest⟩ := List.forall_mem_cons.mp hall
          obtain ⟨nodes, hnodes, hhandles⟩ := ih hrest
          rw [walkOne_ofNat] at hpart
          cases hn : d.node? k with
          | none =>
              rw [hn] at hpart
              cases hpart
          | some n =>
              refine ⟨n :: nodes, List.cons_subset.mpr ⟨mem_of_node? hn, hnodes⟩, ?_⟩
              rw [List.map_cons, handle_of_node? hn, hhandles]

/-- **A document is walked by going down through the children.** -/
theorem walkFrom_eq_ok_iff {handles way : List Nat} :
    d.walkFrom (handles.map Int.ofNat) = .ok (way.map Int.ofNat) ↔ Walks d handles way := by
  constructor
  · intro h
    obtain ⟨nodes, hnodes, rfl⟩ := exists_nodes_of_walkFrom h
    rw [walkFrom_nodes hnodes] at h
    have hway : nodes.flatMap Node.subtree = way :=
      List.map_injective_iff.mpr (fun _ _ => Int.ofNat.inj) (Except.ok.inj h)
    rw [← hway]
    exact walks_nodes hnodes
  · intro h
    obtain ⟨nodes, hnodes, rfl⟩ := h.exists_nodes
    rw [h.unique (walks_nodes hnodes)]
    exact walkFrom_nodes hnodes

/-! ### Looking up -/

/-- What is found under an id is the first item that has it. -/
theorem find?_eq_some_iff {id : Json} :
    d.find? id = some n ↔ id.truthy = true ∧ n ∈ d.outline ∧ n.item.id.equal id = true ∧
      ∀ m ∈ d.outline, m.handle < n.handle → m.item.id.equal id = false := by
  unfold find?
  split
  case isFalse htruthy => simp [htruthy]
  case isTrue htruthy =>
    rw [List.find?_eq_some_iff_getElem]
    constructor
    · rintro ⟨hid, i, hi, rfl, hbefore⟩
      have hindex : d.outline[i].handle = i := handle_of_node? (List.getElem?_eq_getElem hi)
      refine ⟨htruthy, List.getElem_mem hi, hid, fun m hm hlt => ?_⟩
      obtain ⟨j, hj, rfl⟩ := List.getElem_of_mem hm
      rw [handle_of_node? (List.getElem?_eq_getElem hj), hindex] at hlt
      simpa using hbefore j hlt
    · rintro ⟨-, hn, hid, hbefore⟩
      obtain ⟨i, hi, rfl⟩ := List.getElem_of_mem hn
      refine ⟨hid, i, hi, rfl, fun j hj => ?_⟩
      have hlt : d.outline[j].handle < d.outline[i].handle := by
        rwa [handle_of_node? (List.getElem?_eq_getElem hi),
          handle_of_node? (List.getElem?_eq_getElem _)]
      simpa using hbefore _ (List.getElem_mem _) hlt

/-- The nodes that count toward progress. -/
def answerable (d : Document) : List Node :=
  d.outline.filter fun n => n.item.countsForProgress && n.item.id.truthy

theorem answerableId_eq (item : Item) :
    (if item.countsForProgress then
        item.question?.bind fun q => if q.id = "" then none else some q.id
      else none).map Json.str =
      if item.countsForProgress && item.id.truthy then some item.id else none := by
  cases item
  case line q _ | box q _ | check q | yesNo q _ _ | radio q _ =>
    by_cases hid : q.id = "" <;>
      simp [Item.countsForProgress, Item.question?, Item.id, Json.truthy, hid]
  all_goals rfl

theorem answerableIds_eq (d : Document) :
    d.answerableIds.map Json.str = d.answerable.map fun n => n.item.id := by
  rw [answerableIds, answerable, List.map_filterMap, ← List.filterMap_eq_map, List.filterMap_filter]
  exact List.filterMap_congr fun n _ => answerableId_eq n.item

theorem pairwise_answerable (d : Document) :
    (d.answerable.map Node.handle).Pairwise (· < ·) :=
  d.pairwise_walk.sublist (List.filter_sublist.map _)

/-! ### Filling an arena -/

/-- What an arena keeps of an item: the item, and the handles of what it holds under each slot. -/
structure Kept where
  item : Item
  held : Slot → List Nat

/-- Nodes and parents as they are filled in; a slot that is reserved has no node yet. -/
structure Arena where
  nodes : List (Option Kept)
  parents : List (Option Nat)

namespace Arena

/-- Reserves a slot. -/
def reserve (a : Arena) (parent : Option Nat) : Arena :=
  ⟨a.nodes ++ [none], a.parents ++ [parent]⟩

/-- Fills the slot of a handle. -/
def fill (a : Arena) (handle : Nat) (item : Item) (held : Slot → List Nat) : Arena :=
  { a with nodes := a.nodes.set handle (some ⟨item, held⟩) }

mutual

/-- Puts an item into an arena: its slot is reserved, then what it holds is put in, and then the
slot is filled. -/
def putItem (a : Arena) (parent : Option Nat) : Item → Nat × Arena
  | .block text cond items =>
    let handle := a.nodes.length
    let (inside, b) := putItems (a.reserve parent) (some handle) items
    (handle, b.fill handle (.block text cond items) fun
      | .items => inside
      | _ => [])
  | .yesNo q yes no =>
    let handle := a.nodes.length
    let (inYes, b) := putItems (a.reserve parent) (some handle) yes
    let (inNo, c) := putItems b (some handle) no
    (handle, c.fill handle (.yesNo q yes no) fun
      | .yes => inYes
      | .no => inNo
      | .items => [])
  | item =>
    let handle := a.nodes.length
    (handle, (a.reserve parent).fill handle item fun _ => [])

/-- Puts items that stand side by side into an arena, and tells their handles. -/
def putItems (a : Arena) (parent : Option Nat) : List Item → List Nat × Arena
  | [] => ([], a)
  | item :: items =>
    let (handle, b) := putItem a parent item
    let (handles, c) := putItems b parent items
    (handle :: handles, c)

end

/-- An arena with further nodes. -/
def extend (a : Arena) (nodes : List Node) : Arena :=
  ⟨a.nodes ++ nodes.map fun n => some ⟨n.item, n.slotted⟩, a.parents ++ nodes.map Node.parent⟩

theorem extend_extend (a : Arena) (nodes more : List Node) :
    (a.extend nodes).extend more = a.extend (nodes ++ more) := by
  simp [extend]

theorem length_extend (a : Arena) (above : List Nat) (handle : Nat) (items : List Item) :
    (a.extend (outlineItems above handle items)).nodes.length =
      a.nodes.length + Item.sizes items := by
  have hlength := congrArg List.length (handles_outlineItems above handle items)
  rw [List.length_map, List.length_range'] at hlength
  rw [extend, List.length_append, List.length_map, hlength]

/-- A slot that was reserved before others came behind it is filled in its place. -/
theorem fill_extend_reserve (a : Arena) (n : Node) (nodes : List Node)
    (hhandle : n.handle = a.nodes.length) :
    ((a.reserve n.parent).extend nodes).fill n.handle n.item n.slotted = a.extend (n :: nodes) := by
  simp [fill, extend, reserve, hhandle]

theorem length_reserve (a : Arena) (parent : Option Nat) :
    (a.reserve parent).nodes.length = a.nodes.length + 1 :=
  List.length_append

/-- An item that holds nothing fills its slot as soon as it is reserved. -/
theorem fill_reserve_leaf (a : Arena) (above : List Nat) {item : Item} (hleaf : item.IsLeaf) :
    (a.reserve above.head?).fill a.nodes.length item (fun _ => []) =
      a.extend (outlineItem above a.nodes.length item) := by
  have hheld : Node.slotted ⟨a.nodes.length, above, item⟩ = fun _ => [] := by
    cases item with
    | block | yesNo => cases hleaf
    | info | tip | spacer | line | box | check | radio | radioGroup | checkGroup | unknown => rfl
  have hfill := fill_extend_reserve a ⟨a.nodes.length, above, item⟩ [] rfl
  rw [hheld] at hfill
  rw [Editor.outlineItem_leaf hleaf, ← hfill]
  simp [extend, Node.parent]

mutual

/-- Putting an item in adds its subtree. -/
theorem putItem_eq (a : Arena) (above : List Nat) (item : Item) :
    a.putItem above.head? item =
      (a.nodes.length, a.extend (outlineItem above a.nodes.length item)) := by
  cases item with
  | block text cond items =>
      have hinside := putItems_eq (a.reserve above.head?) (a.nodes.length :: above) items
      rw [length_reserve, List.head?_cons] at hinside
      rw [putItem, hinside, outlineItem,
        ← fill_extend_reserve a ⟨_, above, .block text cond items⟩ _ rfl]
      exact congrArg (fun held => (_, fill _ _ _ held)) (funext fun slot => by cases slot <;> rfl)
  | yesNo q yes no =>
      have hyes := putItems_eq (a.reserve above.head?) (a.nodes.length :: above) yes
      rw [length_reserve, List.head?_cons] at hyes
      have hno := putItems_eq ((a.reserve above.head?).extend
        (outlineItems (a.nodes.length :: above) (a.nodes.length + 1) yes))
        (a.nodes.length :: above) no
      rw [length_extend, length_reserve, extend_extend, List.head?_cons] at hno
      rw [putItem, hyes]
      simp only [hno]
      rw [outlineItem, List.cons_append,
        ← fill_extend_reserve a ⟨_, above, .yesNo q yes no⟩ _ rfl]
      exact congrArg (fun held => (_, fill _ _ _ held)) (funext fun slot => by cases slot <;> rfl)
  | info | tip | spacer | line | box | check | radio | radioGroup | checkGroup | unknown =>
      refine congrArg (Prod.mk a.nodes.length) (fill_reserve_leaf a above ?_)
      trivial

/-- Putting items in adds their nodes. -/
theorem putItems_eq (a : Arena) (above : List Nat) (items : List Item) :
    a.putItems above.head? items =
      (handlesFrom a.nodes.length items, a.extend (outlineItems above a.nodes.length items)) := by
  cases items with
  | nil => simp [putItems, handlesFrom, extend, outlineItems]
  | cons item items =>
      have hitem := putItem_eq a above item
      have hlength : (a.extend (outlineItem above a.nodes.length item)).nodes.length =
          a.nodes.length + item.size := by
        rw [← outlineItems_singleton, length_extend]
        rfl
      have hitems := putItems_eq (a.extend (outlineItem above a.nodes.length item)) above items
      rw [hlength, extend_extend] at hitems
      rw [putItems, hitem]
      simp only [hitems]
      rfl

end

/-- **An arena that is filled with the items of a document keeps the nodes of the document, with the
children under each slot, and their parents.** -/
theorem putItems_empty (d : Document) :
    putItems ⟨[], []⟩ none d.items = (d.roots, (Arena.mk [] []).extend d.outline) :=
  putItems_eq ⟨[], []⟩ [] d.items

end Arena

/-! ### All of it -/

/-- The nodes, the parents and the children of a document tell of one tree, whose handles count up
in reading order. -/
structure Numbered (d : Document) : Prop where
  /-- Slots that are reserved one after the other and filled later make the same lists. -/
  filled : Arena.putItems ⟨[], []⟩ none d.items =
    (d.roots, ⟨d.outline.map fun n => some ⟨n.item, n.slotted⟩,
      (List.range d.outline.length).map d.parent?⟩)
  /-- A handle is the index of its node. -/
  handle : ∀ (h : Nat) (n : Node), d.outline[h]? = some n → n.handle = h
  /-- Going down from the top passes every handle in order. -/
  walk : Walks d d.roots d.walk ∧ d.walk = List.range d.outline.length
  /-- What stands at the top has no parent, and nothing else. -/
  top : ∀ h < d.outline.length, d.parent? h = none ↔ h ∈ d.roots
  /-- The parent of a handle is the one node that has it among its children. -/
  parent : ∀ h p, d.parent? h = some p ↔ ∃ n, d.node? p = some n ∧ h ∈ n.children
  /-- Every handle stands in one of the lists, and there once. -/
  once : (d.roots ++ d.outline.flatMap fun n => Slot.all.flatMap n.slotted).Perm
    (List.range d.outline.length)
  /-- Children come behind their parent. -/
  behind : ∀ h p, d.parent? h = some p → p < h
  /-- The walk from any handles goes down through the children. -/
  walkFrom : ∀ handles way : List Nat,
    d.walkFrom (handles.map Int.ofNat) = .ok (way.map Int.ofNat) ↔ Walks d handles way
  /-- A subtree has the handles from its own on. -/
  subtree : ∀ h < d.outline.length, ∃ k, Walks d [h] (List.range' h (k + 1))
  /-- What is found under an id is the first item in order that has it. -/
  find : ∀ id n, d.find? id = some n ↔ id.truthy = true ∧ n ∈ d.outline ∧
    n.item.id.equal id = true ∧ ∀ m ∈ d.outline, m.handle < n.handle → m.item.id.equal id = false
  /-- The ids that can be answered are those of the nodes that count, each once and in order. -/
  answerable : d.answerableIds.map Json.str = d.answerable.map (fun n => n.item.id) ∧
    (d.answerable.map Node.handle).Pairwise (· < ·) ∧
    ∀ n, n ∈ d.answerable ↔
      n ∈ d.outline ∧ n.item.countsForProgress = true ∧ n.item.id.truthy = true

theorem map_parent_outline (d : Document) :
    d.outline.map Node.parent = (List.range d.outline.length).map d.parent? := by
  have hwalk : d.walk = List.range d.outline.length := by
    rw [walk_eq_range', length_outline, List.range_eq_range']
  rw [← hwalk, Document.walk, List.map_map]
  refine List.map_congr_left fun n hn => ?_
  rw [Function.comp_apply, parent?, node?_of_mem hn, Option.bind_some]

/-- **The lists that a document is told by make up one tree, and its handles count up in reading
order.** -/
theorem numbered_in_order (d : Document) : d.Numbered where
  filled := by
    rw [Arena.putItems_empty, Arena.extend, map_parent_outline]
    rfl
  handle h n hn := handle_of_node? hn
  walk := by
    refine ⟨d.walks_roots, ?_⟩
    rw [walk_eq_range', length_outline, List.range_eq_range']
  top h hh := parent?_eq_none_iff (d.length_outline ▸ hh)
  parent h p := parent?_eq_some_iff
  once := by
    rw [length_outline, List.range_eq_range']
    simp only [Node.flatMap_slotted]
    exact perm_handles [] 0 d.items
  behind h p hparent := by
    obtain ⟨n, hn, hchild⟩ := parent?_eq_some_iff.mp hparent
    rw [← handle_of_node? hn]
    exact lt_of_mem_children hchild
  walkFrom handles way := walkFrom_eq_ok_iff
  subtree h hh := by
    obtain ⟨n, hn, rfl⟩ := exists_node_iff.mpr (d.length_outline ▸ hh)
    refine ⟨Item.sizes n.item.children, ?_⟩
    rw [← Item.size_eq, ← subtree_eq_range']
    exact walks_subtree hn
  find id n := find?_eq_some_iff
  answerable := by
    refine ⟨d.answerableIds_eq, d.pairwise_answerable, fun n => ?_⟩
    rw [Document.answerable, List.mem_filter, Bool.and_eq_true]

end Document

end Questionnaire
