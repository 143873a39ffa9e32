/-
What a refresh reports.

The index of a presentation is made anew only if a refresh reports something, and whoever shows the
presentation looks only at what is reported.  So the report has to be exact.  A handle is in it if
and only if another thing is seen under it than before: something where nothing was mounted, nothing
where something was, or an item whose own condition comes out differently.

`seen` is what is seen under a handle.  The comparison goes by induction on the items, like that of
the subtrees themselves.  Under a yes/no question that opens another branch everything is reported,
and rightly so, since the two branches have no handle in common.
-/
import Questionnaire.Proofs.Presentation.Visibility
import Mathlib.Data.List.Nodup

namespace Questionnaire

namespace Mounted

/-! ### What is seen under a handle -/

/-- What is seen under a handle: nothing if nothing is mounted there, and otherwise whether the
item's own condition is met. -/
def seen (ms : List Mounted) (handle : Nat) : Option Bool :=
  ((subtrees ms).find? (·.handle == handle)).map Mounted.visible

theorem seen_nil (handle : Nat) : seen [] handle = none := rfl

theorem seen_cons (m : Mounted) (ms : List Mounted) (handle : Nat) :
    seen (m :: ms) handle = (seen [m] handle).or (seen ms handle) := by
  simp [seen, subtrees, List.find?_append, Option.map_or]

theorem seen_node (handle : Nat) (item : Item) (depth : Nat) (visible : Bool)
    (branch : Option Branch) (children : List Mounted) (h : Nat) :
    seen [⟨handle, item, depth, visible, branch, children⟩] h =
      if handle = h then some visible else seen children h := by
  by_cases heq : handle = h <;> simp [seen, subtrees, subtree, heq]

theorem seen_eq_none_iff {ms : List Mounted} {handle : Nat} :
    seen ms handle = none ↔ handle ∉ handles ms := by
  simp [seen, handles]

/-! ### Handles that are mounted -/

/-- The handles of mounted items are handles of the items, in the same order. -/
theorem handles_ofItems_sublist (answers : Answers) (depth handle : Nat) (items : List Item) :
    (handles (ofItems answers depth handle items)).Sublist
      (List.range' handle (Item.sizes items)) := by
  have hlists := Document.lists_ofItems answers false [] depth handle (List.forall_mem_nil _) items
  have hhandles : handles (ofItems answers depth handle items) = _ := hlists.handles
  rw [hhandles, ← Document.handles_outlineItems []]
  exact List.filter_sublist.map _

theorem mem_handles_ofItems {answers : Answers} {depth handle g : Nat} {items : List Item}
    (h : g ∈ handles (ofItems answers depth handle items)) :
    handle ≤ g ∧ g < handle + Item.sizes items :=
  List.mem_range'_1.mp ((handles_ofItems_sublist answers depth handle items).subset h)

theorem nodup_handles_ofItems (answers : Answers) (depth handle : Nat) (items : List Item) :
    (handles (ofItems answers depth handle items)).Nodup :=
  (handles_ofItems_sublist answers depth handle items).nodup List.nodup_range'

theorem mem_handles_ofItem {answers : Answers} {depth handle g : Nat} {item : Item}
    (h : g ∈ handles [ofItem answers depth handle item]) : handle ≤ g ∧ g < handle + item.size := by
  have hitems : g ∈ handles (ofItems answers depth handle [item]) := h
  exact mem_handles_ofItems hitems

theorem lt_of_mem_handles_ofBranch {answers : Answers} {depth handle g : Nat}
    {yes no : List Item} {branch : Option Branch}
    (h : g ∈ handles (ofBranch answers depth handle yes no branch)) : handle < g := by
  match branch with
  | none => cases h
  | some .yes => have := (mem_handles_ofItems h).1; omega
  | some .no => have := (mem_handles_ofItems h).1; omega

theorem nodup_handles_ofBranch (answers : Answers) (depth handle : Nat) (yes no : List Item)
    (branch : Option Branch) : (handles (ofBranch answers depth handle yes no branch)).Nodup := by
  cases branch with
  | none => exact List.nodup_nil
  | some branch =>
      cases branch with
      | yes => exact nodup_handles_ofItems answers depth (handle + 1) yes
      | no => exact nodup_handles_ofItems answers depth (handle + 1 + Item.sizes yes) no

/-- Two branches of a question have no handle in common, whatever they are mounted for. -/
theorem disjoint_handles_ofBranch {before now : Answers} {depth handle : Nat}
    {yes no : List Item} {branch other : Option Branch} (h : other ≠ branch) :
    (handles (ofBranch before depth handle yes no branch)).Disjoint
      (handles (ofBranch now depth handle yes no other)) := by
  intro g hold hfresh
  match branch, other with
  | none, _ => cases hold
  | some .yes, none | some .no, none => cases hfresh
  | some .yes, some .yes | some .no, some .no => exact h rfl
  | some .yes, some .no =>
      have := (mem_handles_ofItems hold).2
      have := (mem_handles_ofItems hfresh).1
      omega
  | some .no, some .yes =>
      have := (mem_handles_ofItems hold).1
      have := (mem_handles_ofItems hfresh).2
      omega

/-! ### One refresh -/

/-- What is reported where `old` became `fresh`. -/
structure Reports (old fresh : List Mounted) (changed : List Nat) : Prop where
  mem_iff : ∀ h, h ∈ changed ↔ seen old h ≠ seen fresh h
  nodup : changed.Nodup

theorem reports_nil : Reports [] [] [] := ⟨fun h => by simp [seen_nil], List.nodup_nil⟩

/-- An item is reported if its condition comes out differently, besides what is reported below. -/
theorem reports_node {handle : Nat} {item : Item} {depth : Nat} {was now : Bool}
    {branch other : Option Branch} {old fresh : List Mounted} {changed : List Nat}
    (hold : ∀ g ∈ handles old, handle < g) (hfresh : ∀ g ∈ handles fresh, handle < g)
    (h : Reports old fresh changed) :
    Reports [⟨handle, item, depth, was, branch, old⟩] [⟨handle, item, depth, now, other, fresh⟩]
      (flipped handle was now ++ changed) := by
  have hnone : ∀ {ms}, (∀ g ∈ handles ms, handle < g) → seen ms handle = none :=
    fun hms => seen_eq_none_iff.mpr fun hmem => Nat.lt_irrefl _ (hms _ hmem)
  have hself : handle ∉ changed := by
    rw [h.mem_iff, hnone hold, hnone hfresh]
    exact fun hne => hne rfl
  constructor
  · intro g
    rw [List.mem_append, seen_node, seen_node]
    by_cases hg : handle = g
    · subst hg
      by_cases hflip : now = was <;> simp [flipped, hflip, hself, Ne.symm]
    · by_cases hflip : now = was <;> simp [flipped, hflip, hg, Ne.symm hg, h.mem_iff]
  · refine List.Nodup.append ?_ h.nodup ?_
    · by_cases hflip : now = was <;> simp [flipped, hflip]
    · by_cases hflip : now = was <;> simp [flipped, hflip, hself]

/-- Where one thing replaced another, everything in both is reported. -/
theorem reports_replaced {old fresh : List Mounted} (hold : (handles old).Nodup)
    (hfresh : (handles fresh).Nodup) (hdisjoint : (handles old).Disjoint (handles fresh)) :
    Reports old fresh (handles old ++ handles fresh) := by
  refine ⟨fun g => ?_, hold.append hfresh hdisjoint⟩
  rw [List.mem_append]
  by_cases hin : g ∈ handles old
  · have hgone : seen fresh g = none := seen_eq_none_iff.mpr (hdisjoint hin)
    rw [hgone, ne_eq, seen_eq_none_iff]
    simp [hin]
  · rw [seen_eq_none_iff.mpr hin, ne_comm, ne_eq, seen_eq_none_iff]
    simp [hin]

/-- What is reported of items that stand side by side is what is reported of each. -/
theorem reports_cons (mid : Nat) {m m' : Mounted} {ms ms' : List Mounted}
    {changed more : List Nat} (hm : ∀ g ∈ handles [m], g < mid) (hm' : ∀ g ∈ handles [m'], g < mid)
    (hms : ∀ g ∈ handles ms, mid ≤ g) (hms' : ∀ g ∈ handles ms', mid ≤ g)
    (hfirst : Reports [m] [m'] changed) (hrest : Reports ms ms' more) :
    Reports (m :: ms) (m' :: ms') (changed ++ more) := by
  have hbelow : ∀ {ns}, (∀ g ∈ handles ns, g < mid) → ∀ {g}, mid ≤ g → seen ns g = none :=
    fun hns _ hg => seen_eq_none_iff.mpr fun hmem => Nat.not_lt.mpr hg (hns _ hmem)
  have habove : ∀ {ns}, (∀ g ∈ handles ns, mid ≤ g) → ∀ {g}, g < mid → seen ns g = none :=
    fun hns _ hg => seen_eq_none_iff.mpr fun hmem => Nat.not_lt.mpr (hns _ hmem) hg
  have hchanged : ∀ g ∈ changed, g < mid := by
    intro g hg
    by_contra hge
    rw [Nat.not_lt] at hge
    exact (hfirst.mem_iff g).mp hg (by rw [hbelow hm hge, hbelow hm' hge])
  have hmore : ∀ g ∈ more, mid ≤ g := by
    intro g hg
    by_contra hlt
    rw [Nat.not_le] at hlt
    exact (hrest.mem_iff g).mp hg (by rw [habove hms hlt, habove hms' hlt])
  constructor
  · intro g
    rw [List.mem_append, seen_cons m, seen_cons m', hfirst.mem_iff, hrest.mem_iff]
    rcases Nat.lt_or_ge g mid with hlt | hge
    · simp [habove hms hlt, habove hms' hlt]
    · simp [hbelow hm hge, hbelow hm' hge]
  · refine hfirst.nodup.append hrest.nodup fun g hg hg' => ?_
    exact Nat.not_lt.mpr (hmore g hg') (hchanged g hg)

mutual

/-- Refreshing an item that was mounted for other answers reports what is seen differently. -/
theorem reports_ofItem (before now : Answers) (depth handle : Nat) (item : Item) :
    Reports [ofItem before depth handle item] [ofItem now depth handle item]
      (refresh now (ofItem before depth handle item)).2 := by
  cases item with
  | block text cond items =>
      have hitems := reports_ofItems before now (depth + 1) (handle + 1) items
      simp only [ofItem, refresh]
      exact reports_node (fun g hg => (mem_handles_ofItems hg).1)
        (fun g hg => (mem_handles_ofItems hg).1) hitems
  | yesNo q yes no =>
      rw [ofItem_yesNo, ofItem_yesNo]
      simp only [refresh]
      by_cases hbranch : q.branch? now = q.branch? before
      · have hyes := reports_ofItems before now (depth + 1) (handle + 1) yes
        have hno := reports_ofItems before now (depth + 1) (handle + 1 + Item.sizes yes) no
        rw [if_pos hbranch, hbranch]
        refine reports_node (fun g => lt_of_mem_handles_ofBranch)
          (fun g => lt_of_mem_handles_ofBranch) ?_
        match q.branch? before with
        | none => exact reports_nil
        | some .yes => exact hyes
        | some .no => exact hno
      · rw [if_neg hbranch, List.append_assoc]
        exact reports_node (fun g => lt_of_mem_handles_ofBranch)
          (fun g => lt_of_mem_handles_ofBranch)
          (reports_replaced (nodup_handles_ofBranch _ _ _ _ _ _)
            (nodup_handles_ofBranch _ _ _ _ _ _) (disjoint_handles_ofBranch hbranch))
  | info | tip | spacer | line | box | check | radio | radioGroup | checkGroup | unknown =>
      simp only [ofItem, refresh, refreshAll]
      exact reports_node (List.forall_mem_nil _) (List.forall_mem_nil _) reports_nil

theorem reports_ofItems (before now : Answers) (depth handle : Nat) (items : List Item) :
    Reports (ofItems before depth handle items) (ofItems now depth handle items)
      (refreshAll now (ofItems before depth handle items)).2 := by
  cases items with
  | nil => exact reports_nil
  | cons item items =>
      have hitem := reports_ofItem before now depth handle item
      have hitems := reports_ofItems before now depth (handle + item.size) items
      simp only [ofItems, refreshAll]
      exact reports_cons (handle + item.size)
        (fun g hg => (mem_handles_ofItem hg).2) (fun g hg => (mem_handles_ofItem hg).2)
        (fun g hg => (mem_handles_ofItems hg).1) (fun g hg => (mem_handles_ofItems hg).1)
        hitem hitems

end

end Mounted

/-! ### Presentations -/

namespace Presentation

variable {d : Document} {answers : Answers} {handle : Nat}

/-- What a presentation finds under a handle is what is seen there. -/
theorem seen_render (d : Document) (answers : Answers) (handle : Nat) :
    Mounted.seen (render d answers).roots handle =
      ((render d answers).find? handle).map Mounted.visible := by
  rw [find?_render]
  rfl

theorem seen_of_not_mounted (h : (render d answers).isMounted handle = false) :
    Mounted.seen (render d answers).roots handle = none := by
  rw [seen_render, find?, if_neg (Bool.not_eq_true _ ▸ h)]
  rfl

/-- Under the handle of a mounted item it is seen whether the item's condition is met. -/
theorem seen_of_mounted (h : (render d answers).isMounted handle = true) :
    ∃ n, d.node? handle = some n ∧
      Mounted.seen (render d answers).roots handle =
        some (Condition.evaluate n.item.cond answers) := by
  cases hseen : Mounted.seen (render d answers).roots handle with
  | none => exact absurd (List.contains_iff_mem.mp h) (Mounted.seen_eq_none_iff.mp hseen)
  | some visible =>
      rw [seen_render, Option.map_eq_some_iff] at hseen
      obtain ⟨m, hfind, rfl⟩ := hseen
      obtain ⟨hvisible, hitem⟩ := node?_of_find?_render hfind
      obtain ⟨n, hn, hsame⟩ := Option.map_eq_some_iff.mp hitem
      exact ⟨n, hn, by rw [hvisible, hsame]⟩

/-- Another thing is seen under a handle if it is mounted for the one answers and not for the
others, or for both with a condition that comes out differently. -/
theorem seen_ne_iff {before now : Answers} :
    Mounted.seen (render d before).roots handle ≠ Mounted.seen (render d now).roots handle ↔
      (render d before).isMounted handle ≠ (render d now).isMounted handle ∨
        (render d before).isMounted handle = true ∧ (render d now).isMounted handle = true ∧
          ∃ n, d.node? handle = some n ∧
            Condition.evaluate n.item.cond before ≠ Condition.evaluate n.item.cond now := by
  cases hbefore : (render d before).isMounted handle <;>
    cases hnow : (render d now).isMounted handle
  case false.false => simp [seen_of_not_mounted hbefore, seen_of_not_mounted hnow]
  case false.true =>
    obtain ⟨n, -, hseen⟩ := seen_of_mounted hnow
    simp [seen_of_not_mounted hbefore, hseen]
  case true.false =>
    obtain ⟨n, -, hseen⟩ := seen_of_mounted hbefore
    simp [seen_of_not_mounted hnow, hseen]
  case true.true =>
    obtain ⟨n, hn, hseen⟩ := seen_of_mounted hbefore
    obtain ⟨k, hk, hseen'⟩ := seen_of_mounted hnow
    obtain rfl : n = k := Option.some.inj (hn.symm.trans hk)
    simp [hseen, hseen', hn]

/-- Where everything on the way to a handle is seen as before, so is the handle. -/
theorem isVisible_congr {before now : Answers}
    (h : ∀ n, d.node? handle = some n → ∀ g ∈ handle :: n.above,
      Mounted.seen (render d before).roots g = Mounted.seen (render d now).roots g) :
    (render d before).isVisible handle = (render d now).isVisible handle := by
  have hany : ∀ (answers : Answers) (g : Nat),
      ((render d answers).find? g).any Mounted.visible =
        (Mounted.seen (render d answers).roots g).any id := by
    intro answers g
    rw [seen_render, Option.any_map]
    rfl
  rw [Bool.eq_iff_iff, isVisible_iff, isVisible_iff]
  simp only [hany]
  refine exists_congr fun n => and_congr_right fun hn => forall₂_congr fun g hg => ?_
  rw [h n hn g hg]

/-- The ids that count for progress follow from what is visible. -/
theorem visibleIds_congr {before now : Answers}
    (h : ∀ handle, (render d before).isVisible handle = (render d now).isVisible handle) :
    (render d before).visibleIds = (render d now).visibleIds := by
  have hstr : Function.Injective Json.str := fun _ _ => Json.str.inj
  apply List.map_injective_iff.mpr hstr
  rw [(tells_render d before).ids, (tells_render d now).ids, funext h]

/-- What the handles `changed` say of a document when its answers `before` became those of `now`,
and the presentation `p` became `p'`. -/
structure ReportsChange (d : Document) (before now : Answers) (p p' : Presentation)
    (changed : List Nat) : Prop where
  /-- A handle is reported if it is mounted for the one answers and not for the others, or for both
  while the condition of its item comes out differently. -/
  exact : ∀ handle, handle ∈ changed ↔
    (render d before).isMounted handle ≠ (render d now).isMounted handle ∨
      (render d before).isMounted handle = true ∧ (render d now).isMounted handle = true ∧
        ∃ n, d.node? handle = some n ∧
          Condition.evaluate n.item.cond before ≠ Condition.evaluate n.item.cond now
  /-- None is reported twice. -/
  nodup : changed.Nodup
  /-- What is visible now and was not, or the other way, is reported or stands in something that
  is. -/
  above : ∀ handle, p.isVisible handle ≠ p'.isVisible handle →
    ∃ n, d.node? handle = some n ∧ ∃ g ∈ handle :: n.above, g ∈ changed
  /-- Where nothing is reported, nothing is mounted, visible or asked for that was not before. -/
  quiet : changed = [] → p.index = p'.index ∧ (∀ handle, p.isMounted handle = p'.isMounted handle) ∧
    (∀ handle, p.isVisible handle = p'.isVisible handle) ∧ p.visibleIds = p'.visibleIds

theorem reportsChange_render (d : Document) (before now : Answers) :
    ReportsChange d before now (render d before) (render d now)
      ((render d before).refresh now).2 := by
  have hreports := Mounted.reports_ofItems before now 0 0 d.items
  have hseen : ∀ g, g ∉ ((render d before).refresh now).2 →
      Mounted.seen (render d before).roots g = Mounted.seen (render d now).roots g :=
    fun g hg => not_not.mp fun hne => hg ((hreports.mem_iff g).mpr hne)
  refine ⟨fun g => (hreports.mem_iff g).trans seen_ne_iff, hreports.nodup, ?_, ?_⟩
  · intro g hdiffers
    by_contra hnone
    refine hdiffers (isVisible_congr fun n hn k hk => hseen k fun hchanged => ?_)
    exact hnone ⟨n, hn, k, hk, hchanged⟩
  · intro hquiet
    have hindex : (render d before).index = (render d now).index :=
      (Mounted.refreshAll_ofItems before now 0 0 d.items).quiet hquiet
    have hvisible : ∀ g, (render d before).isVisible g = (render d now).isVisible g :=
      fun g => isVisible_congr fun _ _ k _ => hseen k (hquiet ▸ List.not_mem_nil)
    exact ⟨hindex, fun g => by rw [isMounted, isMounted, hindex], hvisible,
      visibleIds_congr hvisible⟩

/-- **A refresh reports exactly what changed**, in a presentation that went along with any number of
changes before. -/
theorem refresh_reports_exactly (d : Document) (first : Answers) (changes : List Answers)
    (now : Answers) :
    let p := (render d first).refreshAlong changes
    ReportsChange d (changes.getLastD first) now p (p.refresh now).1 (p.refresh now).2 := by
  refine forall_refreshAlong (P := fun before p =>
    ReportsChange d before now p (p.refresh now).1 (p.refresh now).2) d ?_ first changes
  intro before
  rw [refresh_render]
  exact reportsChange_render d before now

/-- A block that comes to be shown and the two branches of the question in it, but not the
question itself. -/
example :
    let inside : Item := .yesNo ⟨"q", "", false, .null⟩ [.info "" .null] [.spacer]
    let d : Document := ⟨1, [.block "" (.str "a/1") [inside]]⟩
    ((render d [("q", .str "yes")]).refresh [("q", .str "no"), ("a", .str "1")]).2 = [0, 2, 3] := by
  cbv

end Presentation

end Questionnaire
