/-
Parts of an outline.

The nodes of items that stand side by side have the numbers from the first handle on, and
what such a node stands in is either what all of them stand in or lies between that first
handle and the node's own.  Two parts of an outline therefore know nothing of each other:
no node of one stands in a node of the other.
-/
import Questionnaire.Proofs.Presentation.Settled

namespace Questionnaire

namespace Document

variable {above : List Nat} {handle : Nat} {n : Node}

/-! ### Items side by side -/

theorem outlineItems_singleton (above : List Nat) (handle : Nat) (item : Item) :
    outlineItems above handle [item] = outlineItem above handle item := by
  simp [outlineItems]

theorem mem_outlineItems_cons {item : Item} {items : List Item} :
    n ∈ outlineItems above handle (item :: items) ↔
      n ∈ outlineItem above handle item ∨ n ∈ outlineItems above (handle + item.size) items := by
  rw [outlineItems, List.mem_append]

/-- The handles of a part of an outline. -/
theorem handle_outlineItems {items : List Item} (h : n ∈ outlineItems above handle items) :
    handle ≤ n.handle ∧ n.handle < handle + Item.sizes items := by
  have hmem := List.mem_map_of_mem (f := Node.handle) h
  rwa [handles_outlineItems, List.mem_range'_1] at hmem

/-! ### What a node stands in -/

/-- Where a node of a part has the items that it stands in: `above` are those that the
whole part stands in, and `handle` is the first handle of the part. -/
structure Node.Placed (above : List Nat) (handle : Nat) (n : Node) : Prop where
  outside : above ⊆ n.above
  inside : ∀ g ∈ n.above, g ∈ above ∨ handle ≤ g ∧ g < n.handle

/-- What is placed under an item is placed in the part that begins with the item. -/
theorem Node.Placed.up {first : Nat} (h : n.Placed (handle :: above) first)
    (hfirst : handle < first) (hn : first ≤ n.handle) : n.Placed above handle := by
  refine ⟨fun g hg => h.outside (List.mem_cons_of_mem _ hg), fun g hg => ?_⟩
  rcases h.inside g hg with hout | ⟨hle, hlt⟩
  · rcases List.mem_cons.mp hout with rfl | hout
    · exact .inr ⟨Nat.le_refl _, by omega⟩
    · exact .inl hout
  · exact .inr ⟨by omega, hlt⟩

/-- A part that begins later is a part of the one that began before. -/
theorem Node.Placed.earlier {first : Nat} (h : n.Placed above first) (hle : handle ≤ first) :
    n.Placed above handle :=
  ⟨h.outside, fun g hg => (h.inside g hg).imp_right fun hg => ⟨by omega, hg.2⟩⟩

mutual

theorem placed_outlineItem (above : List Nat) (handle : Nat) (item : Item) :
    ∀ n ∈ outlineItem above handle item, n.Placed above handle := by
  have hself (item : Item) : Node.Placed above handle ⟨handle, above, item⟩ :=
    ⟨fun _ hg => hg, fun _ hg => .inl hg⟩
  cases item with
  | block text cond items =>
      have hitems := placed_outlineItems (handle :: above) (handle + 1) items
      simp only [outlineItem, List.forall_mem_cons]
      exact ⟨hself _, fun n hn =>
        (hitems n hn).up (by omega) (handle_outlineItems hn).1⟩
  | yesNo q yes no =>
      have hyes := placed_outlineItems (handle :: above) (handle + 1) yes
      have hno := placed_outlineItems (handle :: above) (handle + 1 + Item.sizes yes) no
      simp only [outlineItem, List.cons_append, List.forall_mem_cons, List.forall_mem_append]
      exact ⟨hself _,
        fun n hn => (hyes n hn).up (by omega) (handle_outlineItems hn).1,
        fun n hn => (hno n hn).up (by omega) (handle_outlineItems hn).1⟩
  | info | tip | spacer | line | box | check | radio | radioGroup | checkGroup | unknown =>
      simp only [outlineItem, List.forall_mem_singleton]
      exact hself _

theorem placed_outlineItems (above : List Nat) (handle : Nat) (items : List Item) :
    ∀ n ∈ outlineItems above handle items, n.Placed above handle := by
  cases items with
  | nil => intro n hn; cases hn
  | cons item items =>
      have hitem := placed_outlineItem above handle item
      have hitems := placed_outlineItems above (handle + item.size) items
      simp only [outlineItems, List.forall_mem_append]
      exact ⟨hitem, fun n hn => (hitems n hn).earlier (by omega)⟩

end

/-- What an item's inside stands in comes before the inside. -/
theorem above_lt_succ (habove : ∀ g ∈ above, g < handle) : ∀ g ∈ handle :: above, g < handle + 1 :=
  List.forall_mem_cons.mpr
    ⟨Nat.lt_succ_self handle, fun g hg => Nat.lt_succ_of_lt (habove g hg)⟩

/-- What a part stands in is not in the part. -/
theorem handle_not_mem_above {items : List Item} {first : Nat} (habove : ∀ g ∈ above, g < first)
    (hle : first ≤ handle) (hn : n ∈ outlineItems above handle items) : n.handle ∉ above := by
  have hhandle := (handle_outlineItems hn).1
  intro hmem
  have := habove _ hmem
  omega

/-- A node of a part does not stand in anything that comes behind the part. -/
theorem not_above_of_later {items : List Item} {g : Nat} (habove : ∀ g ∈ above, g < handle)
    (hn : n ∈ outlineItems above handle items) (hg : handle + Item.sizes items ≤ g) :
    g ∉ n.handle :: n.above := by
  have hhandle := (handle_outlineItems hn).2
  intro hmem
  rcases List.mem_cons.mp hmem with rfl | hmem
  · omega
  · rcases (placed_outlineItems above handle items n hn).inside g hmem with hout | ⟨-, hlt⟩
    · have := habove g hout
      omega
    · omega

/-- A node of a part does not stand in anything between what the part stands in and the
part. -/
theorem not_above_of_earlier {items : List Item} {first g : Nat}
    (habove : ∀ g ∈ above, g < first) (hn : n ∈ outlineItems above handle items)
    (hfirst : first ≤ g) (hg : g < handle) : g ∉ n.handle :: n.above := by
  have hhandle := (handle_outlineItems hn).1
  intro hmem
  rcases List.mem_cons.mp hmem with rfl | hmem
  · omega
  · rcases (placed_outlineItems above handle items n hn).inside g hmem with hout | ⟨hle, -⟩
    · have := habove g hout
      omega
    · omega

/-- Items that stand side by side from a handle on have handles from there on. -/
theorem bounds_of_mem_handlesFrom {items : List Item} {g : Nat}
    (h : g ∈ handlesFrom handle items) : handle ≤ g ∧ g < handle + Item.sizes items := by
  induction items generalizing handle with
  | nil => cases h
  | cons item items ih =>
      have hsize : 0 < item.size := by cases item <;> simp [Item.size]
      rw [Item.sizes]
      rcases List.mem_cons.mp h with rfl | h
      · omega
      · have := ih h
        omega

/-- Every node of an item's subtree is the item, or stands in it. -/
theorem handle_mem_way {item : Item} (h : n ∈ outlineItem above handle item) :
    handle ∈ n.handle :: n.above := by
  cases item with
  | block text cond items =>
      rcases List.mem_cons.mp h with rfl | hin
      · exact List.mem_cons_self
      · exact List.mem_cons_of_mem _
          ((placed_outlineItems _ _ _ n hin).outside List.mem_cons_self)
  | yesNo q yes no =>
      rw [outlineItem, List.cons_append, List.mem_cons, List.mem_append] at h
      rcases h with rfl | hyes | hno
      · exact List.mem_cons_self
      · exact List.mem_cons_of_mem _
          ((placed_outlineItems _ _ _ n hyes).outside List.mem_cons_self)
      · exact List.mem_cons_of_mem _
          ((placed_outlineItems _ _ _ n hno).outside List.mem_cons_self)
  | info | tip | spacer | line | box | check | radio | radioGroup | checkGroup | unknown =>
      rw [List.mem_singleton.mp h]
      exact List.mem_cons_self

/-- Every node of a part is, or stands in, one of the items of the part. -/
theorem exists_mem_handlesFrom {items : List Item} (h : n ∈ outlineItems above handle items) :
    ∃ g ∈ n.handle :: n.above, g ∈ handlesFrom handle items := by
  induction items generalizing handle with
  | nil => cases h
  | cons item items ih =>
      rcases mem_outlineItems_cons.mp h with hitem | hitems
      · exact ⟨handle, handle_mem_way hitem, List.mem_cons_self⟩
      · obtain ⟨g, hg, hmem⟩ := ih hitems
        exact ⟨g, hg, List.mem_cons_of_mem _ hmem⟩

/-! ### What is asked of all that a node stands in -/

/-- Each of the nodes that is `n`, or that `n` stands in, is as `ok` asks for `n`. -/
def Node.Clear (ok : Node → Node → Prop) (nodes : List Node) (n : Node) : Prop :=
  ∀ y ∈ nodes, y.handle ∈ n.handle :: n.above → ok y n

variable {ok : Node → Node → Prop} {first rest : List Item}

/-- What comes behind a part does not matter to its nodes. -/
theorem clear_append_left (habove : ∀ g ∈ above, g < handle)
    (hn : n ∈ outlineItems above handle first) :
    n.Clear ok (outlineItems above handle first ++
        outlineItems above (handle + Item.sizes first) rest) ↔
      n.Clear ok (outlineItems above handle first) := by
  refine ⟨fun h y hy => h y (List.mem_append_left _ hy), fun h y hy hway => ?_⟩
  rcases List.mem_append.mp hy with hy | hy
  · exact h y hy hway
  · exact absurd hway (not_above_of_later habove hn (handle_outlineItems hy).1)

/-- What comes before a part does not matter to its nodes. -/
theorem clear_append_right (habove : ∀ g ∈ above, g < handle)
    (hn : n ∈ outlineItems above (handle + Item.sizes first) rest) :
    n.Clear ok (outlineItems above handle first ++
        outlineItems above (handle + Item.sizes first) rest) ↔
      n.Clear ok (outlineItems above (handle + Item.sizes first) rest) := by
  refine ⟨fun h y hy => h y (List.mem_append_right _ hy), fun h y hy hway => ?_⟩
  rcases List.mem_append.mp hy with hy | hy
  · have hhandle := handle_outlineItems hy
    exact absurd hway (not_above_of_earlier habove hn hhandle.1 hhandle.2)
  · exact h y hy hway

/-- An item that holds the nodes behind it. -/
structure Node.Holds (top : Node) (nodes : List Node) : Prop where
  apart : ∀ y ∈ nodes, y.handle ∉ top.handle :: top.above
  above : ∀ n ∈ nodes, top.handle ∈ n.above

theorem holds_outlineItems {item : Item} {first : Nat} (habove : ∀ g ∈ above, g < handle)
    (hfirst : handle < first) (items : List Item) :
    Node.Holds ⟨handle, above, item⟩ (outlineItems (handle :: above) first items) where
  apart _ hy := handle_not_mem_above (above_lt_succ habove) hfirst hy
  above n hn := (placed_outlineItems _ _ _ n hn).outside List.mem_cons_self

theorem Node.Holds.append {top : Node} {nodes more : List Node} (h : top.Holds nodes)
    (hmore : top.Holds more) : top.Holds (nodes ++ more) :=
  ⟨List.forall_mem_append.mpr ⟨h.apart, hmore.apart⟩,
    List.forall_mem_append.mpr ⟨h.above, hmore.above⟩⟩

theorem Node.Holds.nil (top : Node) : top.Holds [] :=
  ⟨List.forall_mem_nil _, List.forall_mem_nil _⟩

/-- An item that holds nodes is asked about itself only. -/
theorem Node.Holds.clear_top {top : Node} {nodes : List Node} (h : top.Holds nodes) :
    top.Clear ok (top :: nodes) ↔ ok top top :=
  ⟨fun hclear => hclear top List.mem_cons_self List.mem_cons_self,
    fun hok => List.forall_mem_cons.mpr
      ⟨fun _ => hok, fun y hy hway => absurd hway (h.apart y hy)⟩⟩

/-- The nodes that an item holds are asked about it besides. -/
theorem Node.Holds.clear {top : Node} {nodes : List Node} (h : top.Holds nodes)
    (hn : n ∈ nodes) :
    n.Clear ok (top :: nodes) ↔ n.Clear (fun y n => ok top n ∧ ok y n) nodes := by
  constructor
  · intro hclear y hy hway
    exact ⟨hclear top List.mem_cons_self (List.mem_cons_of_mem _ (h.above n hn)),
      hclear y (List.mem_cons_of_mem _ hy) hway⟩
  · intro hclear
    refine List.forall_mem_cons.mpr ⟨fun _ => (hclear n hn List.mem_cons_self).1, ?_⟩
    exact fun y hy hway => (hclear y hy hway).2

/-- All nodes of an item and what it holds are clear if those that it holds are, and the
item is as it has to be for each of them. -/
theorem Node.Holds.forall_clear {top : Node} {nodes : List Node} (h : top.Holds nodes)
    (htop : ∀ n ∈ top :: nodes, ok top n) (hnodes : ∀ n ∈ nodes, n.Clear ok nodes) :
    ∀ n ∈ top :: nodes, n.Clear ok (top :: nodes) := by
  rw [List.forall_mem_cons] at htop ⊢
  refine ⟨h.clear_top.mpr htop.1, fun n hn => (h.clear hn).mpr fun y hy hway => ?_⟩
  exact ⟨htop.2 n hn, hnodes n hn y hy hway⟩

theorem forall_clear_append (habove : ∀ g ∈ above, g < handle)
    (hfirst : ∀ n ∈ outlineItems above handle first,
      n.Clear ok (outlineItems above handle first))
    (hrest : ∀ n ∈ outlineItems above (handle + Item.sizes first) rest,
      n.Clear ok (outlineItems above (handle + Item.sizes first) rest)) :
    ∀ n ∈ outlineItems above handle first ++ outlineItems above (handle + Item.sizes first) rest,
      n.Clear ok (outlineItems above handle first ++
        outlineItems above (handle + Item.sizes first) rest) :=
  List.forall_mem_append.mpr
    ⟨fun n hn => (clear_append_left habove hn).mpr (hfirst n hn),
      fun n hn => (clear_append_right habove hn).mpr (hrest n hn)⟩

/-- Every item is as `ok` asks for each node of its subtree. -/
def OnSubtrees (ok : Node → Node → Prop) : Prop :=
  ∀ above handle item, (∀ g ∈ above, g < handle) →
    ∀ n ∈ outlineItem above handle item, ok ⟨handle, above, item⟩ n

mutual

/-- What holds of every item and each node of its subtree holds of every node and each
item that it stands in. -/
theorem clear_outlineItem (hall : OnSubtrees ok) (above : List Nat) (handle : Nat)
    (habove : ∀ g ∈ above, g < handle) (item : Item) :
    ∀ n ∈ outlineItem above handle item, n.Clear ok (outlineItem above handle item) := by
  have htop := hall above handle item habove
  have hbelow := above_lt_succ habove
  cases item with
  | block text cond items =>
      have hitems := clear_outlineItems hall (handle :: above) (handle + 1) hbelow items
      exact (holds_outlineItems habove (Nat.lt_succ_self _) items).forall_clear htop hitems
  | yesNo q yes no =>
      have hlater : ∀ g ∈ handle :: above, g < handle + 1 + Item.sizes yes :=
        fun g hg => Nat.lt_add_right _ (hbelow g hg)
      have hyes := clear_outlineItems hall (handle :: above) (handle + 1) hbelow yes
      have hno := clear_outlineItems hall (handle :: above) (handle + 1 + Item.sizes yes) hlater no
      refine ((holds_outlineItems habove (Nat.lt_succ_self _) yes).append
        (holds_outlineItems habove (by omega) no)).forall_clear htop ?_
      exact forall_clear_append hbelow hyes hno
  | info | tip | spacer | line | box | check | radio | radioGroup | checkGroup | unknown =>
      exact (Node.Holds.nil _).forall_clear htop (List.forall_mem_nil _)

theorem clear_outlineItems (hall : OnSubtrees ok) (above : List Nat) (handle : Nat)
    (habove : ∀ g ∈ above, g < handle) (items : List Item) :
    ∀ n ∈ outlineItems above handle items, n.Clear ok (outlineItems above handle items) := by
  cases items with
  | nil => exact List.forall_mem_nil _
  | cons item items =>
      have hitem := clear_outlineItem hall above handle habove item
      have hitems := clear_outlineItems hall above (handle + item.size)
        (fun g hg => Nat.lt_add_right _ (habove g hg)) items
      rw [← outlineItems_singleton] at hitem
      rw [outlineItems, ← outlineItems_singleton]
      exact forall_clear_append habove hitem hitems

end

open Classical in
/-- The nodes among some that are clear. -/
noncomputable def clearNodes (ok : Node → Node → Prop) (nodes : List Node) : List Node :=
  nodes.filter fun n => n.Clear ok nodes

theorem mem_clearNodes {nodes : List Node} :
    n ∈ clearNodes ok nodes ↔ n ∈ nodes ∧ n.Clear ok nodes := by
  simp [clearNodes]

open Classical in
theorem clearNodes_eq_filter {nodes : List Node} {seen : Node → Bool}
    (hseen : ∀ n ∈ nodes, seen n = true ↔ n.Clear ok nodes) :
    clearNodes ok nodes = nodes.filter seen := by
  refine List.filter_congr fun n hn => ?_
  rw [Bool.eq_iff_iff, decide_eq_true_iff]
  exact (hseen n hn).symm

theorem clearNodes_append (habove : ∀ g ∈ above, g < handle) :
    clearNodes ok (outlineItems above handle first ++
        outlineItems above (handle + Item.sizes first) rest) =
      clearNodes ok (outlineItems above handle first) ++
        clearNodes ok (outlineItems above (handle + Item.sizes first) rest) := by
  rw [clearNodes, List.filter_append, clearNodes, clearNodes]
  congr 1
  · refine List.filter_congr fun n hn => ?_
    rw [decide_eq_decide]
    exact clear_append_left habove hn
  · refine List.filter_congr fun n hn => ?_
    rw [decide_eq_decide]
    exact clear_append_right habove hn

open Classical in
theorem Node.Holds.clearNodes {top : Node} {nodes : List Node} (h : top.Holds nodes) :
    clearNodes ok (top :: nodes) =
      (if ok top top then [top] else []) ++
        Document.clearNodes (fun y n => ok top n ∧ ok y n) nodes := by
  have hrest : nodes.filter (fun n => n.Clear ok (top :: nodes)) =
      Document.clearNodes (fun y n => ok top n ∧ ok y n) nodes :=
    List.filter_congr fun n hn => decide_eq_decide.mpr (h.clear hn)
  rw [Document.clearNodes, List.filter_cons, hrest]
  by_cases hok : ok top top <;> simp [h.clear_top, hok]

open Classical in
theorem clearNodes_congr {nodes : List Node} {p p' : Node → Prop} (h : ∀ n ∈ nodes, p n ↔ p' n) :
    clearNodes (fun y n => p n ∧ ok y n) nodes = clearNodes (fun y n => p' n ∧ ok y n) nodes := by
  refine List.filter_congr fun n hn => decide_eq_decide.mpr ?_
  simp only [Node.Clear, h n hn]

open Classical in
/-- A further demand that all nodes meet changes nothing. -/
theorem clearNodes_of_forall {nodes : List Node} {p : Node → Prop} (h : ∀ n ∈ nodes, p n) :
    clearNodes (fun y n => p n ∧ ok y n) nodes = clearNodes ok nodes := by
  refine List.filter_congr fun n hn => decide_eq_decide.mpr ?_
  exact ⟨fun hall y hy hway => (hall y hy hway).2, fun hall y hy hway => ⟨h n hn, hall y hy hway⟩⟩

/-- A further demand that no node meets leaves none. -/
theorem clearNodes_of_forall_not {nodes : List Node} {p : Node → Prop} (h : ∀ n ∈ nodes, ¬p n) :
    clearNodes (fun y n => p n ∧ ok y n) nodes = [] := by
  refine List.eq_nil_iff_forall_not_mem.mpr fun n hmem => ?_
  obtain ⟨hn, hclear⟩ := mem_clearNodes.mp hmem
  exact h n hn (hclear n hn List.mem_cons_self).1

/-! ### The whole outline -/

/-- What lies above a node of a document lies above all that stands in the node. -/
theorem above_subset {d : Document} {y : Node} (hy : y ∈ d.outline) (hn : n ∈ d.outline)
    (hway : y.handle ∈ n.handle :: n.above) : y.above ⊆ n.above := by
  have hsub : OnSubtrees fun y n => y.above ⊆ n.above :=
    fun above handle item _ n hn => (placed_outlineItem above handle item n hn).outside
  exact clear_outlineItems hsub [] 0 (List.forall_mem_nil _) d.items n hn y hy hway

/-- Everything that a node of a document stands in is a node of it. -/
theorem exists_node_of_mem_way {d : Document} {g : Nat} (hn : n ∈ d.outline)
    (hg : g ∈ n.handle :: n.above) : ∃ y ∈ d.outline, y.handle = g := by
  rcases List.mem_cons.mp hg with rfl | hg
  · exact ⟨n, hn, rfl⟩
  · have hlt : g < n.handle := by
      rcases (placed_outlineItems [] 0 d.items n hn).inside g hg with hout | ⟨-, hlt⟩
      · cases hout
      · exact hlt
    have hsize := (handle_outlineItems hn).2
    rw [← List.mem_map, outline, handles_outlineItems, List.mem_range'_1]
    omega

theorem node_inj {d : Document} {y : Node} (hy : y ∈ d.outline) (hn : n ∈ d.outline)
    (h : y.handle = n.handle) : y = n := by
  have heq := node?_of_mem hy
  rw [h, node?_of_mem hn] at heq
  exact (Option.some.inj heq).symm

/-- A walk through a document goes up with the handles. -/
theorem pairwise_walk (d : Document) : d.walk.Pairwise (· < ·) := by
  rw [walk, outline, handles_outlineItems]
  exact List.pairwise_lt_range'

end Document

end Questionnaire
