/-
Findings are told of what is wrong, and of nothing else.

The check goes through the items with a record of the ids it met and of those it told of.
What it comes to is said here without the record.  `Document.written` are all ids that are
keys of answers as they were written, one after the other, and `Document.keys` those among
them that are not empty.  A key that stands there more than once is told of exactly once,
where it stands for the second time; each id that is badly formed is told of each time;
and each item is told of what it lacks.

`Accounts` is what carries this through the check: it relates a part of the ids, the
findings that came of it and the record before and after, and it holds of two parts one
after the other if it holds of both.
-/
import Questionnaire.Validation
import Mathlib.Data.List.Nodup

namespace Questionnaire

/-! ### What is to be found -/

/-- The id of an item as a text; one that does not count as given is the empty text. -/
def Item.idText (item : Item) : String := if item.id.truthy then item.id.str?.getD "" else ""

namespace Item

/-- An id that counts as given is a text. -/
def Checkable (item : Item) : Prop := item.id.truthy = true → ∃ id, item.id = .str id

/-- The ids of an item that are keys of answers, as they were written: its own unless it is
empty, then those of its options, if it is a checkbox group. -/
def written (item : Item) : List String :=
  (if item.idText = "" then [] else [item.idText]) ++
    (Validation.keyChoices item).map GroupChoice.id

/-- A question or a group that has no id. -/
def lacksId : Item → Bool
  | .line q _ | .box q _ | .check q | .yesNo q _ _ | .radioGroup q _ | .checkGroup q _ => q.id = ""
  | _ => false

/-- A group that has no option. -/
def lacksChoices : Item → Bool
  | .radioGroup _ group | .checkGroup _ group => group.choices.isEmpty
  | _ => false

/-- An item of an unknown type that is empty. -/
def lacksType : Item → Bool
  | .unknown type _ => type = ""
  | _ => false

end Item

namespace Document

/-- The written ids of a node, each with the node's handle. -/
def Node.written (n : Node) : List (String × Nat) := n.item.written.map (·, n.handle)

/-- All ids that are keys of answers, each with the handle of its item, as written. -/
def written (d : Document) : List (String × Nat) := d.outline.flatMap Node.written

/-- Those that are not empty. -/
def keys (d : Document) : List (String × Nat) := d.written.filter (·.1 ≠ "")

end Document

namespace Validation

/-! ### Claims -/

/-- Takes note of one id after the other. -/
def claimAll (seen : Seen) : List (String × Nat) → List Issue × Seen
  | [] => ([], seen)
  | (id, handle) :: rest =>
    let (issues, seen) := claim id handle seen
    let (more, seen) := claimAll seen rest
    (issues ++ more, seen)

theorem claimAll_cons (seen : Seen) (id : String) (handle : Nat) (rest : List (String × Nat)) :
    claimAll seen ((id, handle) :: rest) =
      ((claim id handle seen).1 ++ (claimAll (claim id handle seen).2 rest).1,
        (claimAll (claim id handle seen).2 rest).2) := rfl

theorem claimAll_append (seen : Seen) (first rest : List (String × Nat)) :
    claimAll seen (first ++ rest) =
      ((claimAll seen first).1 ++ (claimAll (claimAll seen first).2 rest).1,
        (claimAll (claimAll seen first).2 rest).2) := by
  induction first generalizing seen with
  | nil => rfl
  | cons k first ih =>
      rw [List.cons_append, claimAll_cons, claimAll_cons, ih, List.append_assoc]

/-- Whether a finding is about an id. -/
def isAbout (id : String) (i : Issue) : Bool := i.itemId? == some id

section Claims

variable {id : String} {seen : Seen}

/-- A claim of another id tells nothing of this one. -/
theorem claim_other {other : String} (h : other ≠ id) (handle : Nat) (seen : Seen) :
    (claim other handle seen).1.filter (isAbout id) = [] ∧
      (id ∈ (claim other handle seen).2.ids ↔ id ∈ seen.ids) ∧
      (id ∈ (claim other handle seen).2.reported ↔ id ∈ seen.reported) := by
  unfold claim
  split
  case isTrue =>
    split <;> simp [isAbout, Issue.itemId?, h, Ne.symm h]
  case isFalse => simp [Ne.symm h]

/-- An id that was told of is not told of again. -/
theorem filter_claimAll_of_reported (hids : id ∈ seen.ids) (hreported : id ∈ seen.reported)
    (keys : List (String × Nat)) : (claimAll seen keys).1.filter (isAbout id) = [] := by
  induction keys generalizing seen with
  | nil => rfl
  | cons k keys ih =>
      obtain ⟨other, handle⟩ := k
      rw [claimAll_cons, List.filter_append]
      by_cases hother : other = id
      · have hclaim : claim other handle seen = ([], seen) := by
          simp [claim, hother, hids, hreported]
        rw [hclaim]
        exact ih hids hreported
      · obtain ⟨hnone, hiffIds, hiffReported⟩ := claim_other hother handle seen
        rw [hnone]
        exact ih (hiffIds.mpr hids) (hiffReported.mpr hreported)

/-- An id that was met is told of where it comes next. -/
theorem filter_claimAll_of_met (hids : id ∈ seen.ids) (hreported : id ∉ seen.reported)
    (keys : List (String × Nat)) :
    (claimAll seen keys).1.filter (isAbout id) =
      ((keys.filter (·.1 = id))[0]?).toList.map fun k => .duplicateId id k.2 := by
  induction keys generalizing seen with
  | nil => rfl
  | cons k keys ih =>
      obtain ⟨other, handle⟩ := k
      rw [claimAll_cons, List.filter_append]
      by_cases hother : other = id
      · have hclaim : claim other handle seen =
            ([.duplicateId id handle], { seen with reported := id :: seen.reported }) := by
          simp [claim, hother, hids, hreported]
        have hlater : (claimAll { seen with reported := id :: seen.reported } keys).1.filter
            (isAbout id) = [] := by
          refine filter_claimAll_of_reported ?_ ?_ keys
          · exact hids
          · exact List.mem_cons_self
        rw [hclaim, hlater, List.append_nil]
        simp [isAbout, Issue.itemId?, hother]
      · obtain ⟨hnone, hiffIds, hiffReported⟩ := claim_other hother handle seen
        rw [hnone, List.nil_append, ih (hiffIds.mpr hids) (hiffReported.not.mpr hreported),
          List.filter_cons_of_neg (by simpa using hother)]

/-- An id that was not met is told of where it comes for the second time. -/
theorem filter_claimAll_of_fresh (hids : id ∉ seen.ids) (hreported : id ∉ seen.reported)
    (keys : List (String × Nat)) :
    (claimAll seen keys).1.filter (isAbout id) =
      ((keys.filter (·.1 = id))[1]?).toList.map fun k => .duplicateId id k.2 := by
  induction keys generalizing seen with
  | nil => rfl
  | cons k keys ih =>
      obtain ⟨other, handle⟩ := k
      rw [claimAll_cons, List.filter_append]
      by_cases hother : other = id
      · have hclaim : claim other handle seen = ([], { seen with ids := id :: seen.ids }) := by
          simp [claim, hother, hids]
        rw [hclaim, List.filter_cons_of_pos (by simpa using hother), List.getElem?_cons_succ]
        refine filter_claimAll_of_met ?_ ?_ keys
        · exact List.mem_cons_self
        · exact hreported
      · obtain ⟨hnone, hiffIds, hiffReported⟩ := claim_other hother handle seen
        rw [hnone, List.nil_append,
          ih (hiffIds.not.mpr hids) (hiffReported.not.mpr hreported),
          List.filter_cons_of_neg (by simpa using hother)]

end Claims

/-! ### What a part of the check accounts for -/

/-- The findings of a kind. -/
def ofCode (code : String) (issues : List Issue) : List Issue :=
  issues.filter (·.code = code)

/-- The ids that are no ids, each with the finding that says so. -/
def malformed (written : List (String × Nat)) : List Issue :=
  (written.filter fun k => !isId k.1).map fun k => .invalidId k.1 k.2

/-- Whether a finding says that something is missing. -/
def isLack (i : Issue) : Bool := i.code ≠ "DUPLICATE_ID" && i.code ≠ "INVALID_ID_FORMAT"

/-- A part of the check begins with a record, ends with a result, and goes through the ids
as they were written and what items lack. -/
structure Accounts (seen : Seen) (result : List Issue × Seen) (written : List (String × Nat))
    (lacking : List Issue) : Prop where
  /-- The ids that are not empty are claimed one after the other. -/
  claims : claimAll seen (written.filter (·.1 ≠ "")) =
    (ofCode "DUPLICATE_ID" result.1, result.2)
  /-- Every id is looked at for its form. -/
  formats : ofCode "INVALID_ID_FORMAT" result.1 = malformed written
  /-- All other findings are told of what items lack. -/
  lacks : result.1.filter isLack = lacking

namespace Accounts

variable {seen middle after : Seen} {issues more lacking others : List Issue}
  {written rest : List (String × Nat)}

theorem nil (seen : Seen) : Accounts seen ([], seen) [] [] := ⟨rfl, rfl, rfl⟩

theorem append (h : Accounts seen (issues, middle) written lacking)
    (hrest : Accounts middle (more, after) rest others) :
    Accounts seen (issues ++ more, after) (written ++ rest) (lacking ++ others) where
  claims := by
    rw [List.filter_append, claimAll_append, h.claims, hrest.claims, ofCode, ofCode, ofCode,
      List.filter_append]
  formats := by
    have hformats := h.formats
    have hmore := hrest.formats
    rw [ofCode] at hformats hmore
    rw [ofCode, List.filter_append, hformats, hmore, malformed, malformed, malformed,
      List.filter_append, List.map_append]
  lacks := by rw [List.filter_append, h.lacks, hrest.lacks]

/-- What only tells of something missing claims nothing. -/
theorem ofLacks (seen : Seen) (h : ∀ i ∈ issues, isLack i = true) :
    Accounts seen (issues, seen) [] issues where
  claims := by
    have hnone : ofCode "DUPLICATE_ID" issues = [] :=
      List.filter_eq_nil_iff.mpr fun i hi hcode => by simp_all [isLack]
    rw [hnone]
    rfl
  formats := List.filter_eq_nil_iff.mpr fun i hi hcode => by simp_all [isLack]
  lacks := List.filter_eq_self.mpr h

end Accounts

/-- A claim tells of a duplicate only. -/
theorem claim_eq (id : String) (handle : Nat) (seen : Seen) :
    ofCode "DUPLICATE_ID" (claim id handle seen).1 = (claim id handle seen).1 ∧
      ofCode "INVALID_ID_FORMAT" (claim id handle seen).1 = [] ∧
      (claim id handle seen).1.filter isLack = [] := by
  unfold claim
  split
  case isTrue => split <;> exact ⟨rfl, rfl, rfl⟩
  case isFalse => exact ⟨rfl, rfl, rfl⟩

theorem checkFormat_eq (id : String) (handle : Nat) :
    ofCode "DUPLICATE_ID" (checkFormat id handle) = [] ∧
      ofCode "INVALID_ID_FORMAT" (checkFormat id handle) = malformed [(id, handle)] ∧
      (checkFormat id handle).filter isLack = [] := by
  by_cases h : isId id = true <;>
    simp [checkFormat, malformed, ofCode, isLack, Issue.code, h]

theorem accounts_checkChoice (id : String) (handle : Nat) (seen : Seen) :
    Accounts seen (checkChoice id handle seen) [(id, handle)] [] := by
  obtain ⟨hclaim, hclaimFormat, hclaimLack⟩ := claim_eq id handle seen
  obtain ⟨hformatClaim, hformat, hformatLack⟩ := checkFormat_eq id handle
  rw [ofCode] at hclaim hclaimFormat hformatClaim hformat
  by_cases hid : id = ""
  · subst hid
    simp only [checkChoice, ↓reduceIte, List.nil_append]
    refine ⟨?_, hformat, hformatLack⟩
    rw [ofCode, hformatClaim]
    rfl
  · simp only [checkChoice, if_neg hid]
    refine ⟨?_, ?_, ?_⟩
    · simp [ofCode, List.filter_append, hclaim, hformatClaim, hid, claimAll]
    · simp [ofCode, List.filter_append, hclaimFormat, hformat]
    · simp [List.filter_append, hclaimLack, hformatLack]

theorem accounts_checkId (id : String) (handle : Nat) (seen : Seen) :
    Accounts seen (checkId id handle seen)
      ((if id = "" then [] else [id]).map (·, handle)) [] := by
  by_cases hid : id = ""
  · rw [checkId, if_pos hid, if_pos hid]
    exact .nil seen
  · have heq : checkId id handle seen = checkChoice id handle seen := by
      simp only [checkId, checkChoice, if_neg hid]
    rw [heq, if_neg hid]
    exact accounts_checkChoice id handle seen

theorem accounts_checkChoices (handle : Nat) (seen : Seen) (choices : List GroupChoice) :
    Accounts seen (checkChoices handle seen choices)
      ((choices.map GroupChoice.id).map (·, handle)) [] := by
  induction choices generalizing seen with
  | nil => exact .nil seen
  | cons c choices ih =>
      exact (accounts_checkChoice c.id handle seen).append
        (ih (checkChoice c.id handle seen).2)

/-- What an item lacks, by kind. -/
theorem lacks_eq (item : Item) (handle : Nat) :
    lacks item handle =
      (if item.lacksId then [.missingId item.type handle] else []) ++
        ((if item.lacksChoices then [.missingChoices item.type item.idText handle] else []) ++
          if item.lacksType then [.missingType handle] else []) := by
  cases item
  case line q _ | box q _ | check q | yesNo q _ _ =>
    by_cases hid : q.id = "" <;>
      simp [lacks, Item.lacksId, Item.lacksChoices, Item.lacksType, hid]
  case radioGroup q group | checkGroup q group =>
    by_cases hid : q.id = "" <;> by_cases hchoices : group.choices = [] <;>
      simp [lacks, Item.lacksId, Item.lacksChoices, Item.lacksType, Item.idText, Item.id,
        Item.question?, Json.truthy, Json.str?, hid, hchoices]
  case unknown type source =>
    by_cases htype : type = "" <;>
      simp [lacks, Item.lacksId, Item.lacksChoices, Item.lacksType, htype]
  all_goals rfl

theorem isLack_of_mem_lacks (item : Item) (handle : Nat) :
    ∀ i ∈ lacks item handle, isLack i = true := by
  intro i hi
  rw [lacks_eq, List.mem_append, List.mem_append] at hi
  rcases hi with hi | hi | hi <;> split at hi
  case inl.isTrue | inr.inl.isTrue | inr.inr.isTrue => rw [List.mem_singleton.mp hi]; rfl
  all_goals cases hi

/-- The check of an item accounts for its ids and what it lacks. -/
theorem accounts_checkItem {n : Document.Node} (h : n.item.Checkable) (seen : Seen) :
    ∃ result, checkItem n.item n.handle seen = .ok result ∧
      Accounts seen result n.written (lacks n.item n.handle) := by
  have hid : (if n.item.id.truthy then n.item.id.str? else some "") = some n.item.idText := by
    rw [Item.idText]
    split
    case isTrue htruthy =>
      obtain ⟨id, heq⟩ := h htruthy
      rw [heq]
      rfl
    case isFalse => rfl
  rw [checkItem, hid]
  refine ⟨_, rfl, ?_⟩
  have hown := accounts_checkId n.item.idText n.handle seen
  have hlacks := Accounts.ofLacks (checkId n.item.idText n.handle seen).2
    (isLack_of_mem_lacks n.item n.handle)
  have hchoices := accounts_checkChoices n.handle (checkId n.item.idText n.handle seen).2
    (keyChoices n.item)
  have hall := (hown.append hlacks).append hchoices
  rw [List.append_nil, List.nil_append, List.append_nil] at hall
  rwa [Document.Node.written, Item.written, List.map_append]

/-- Only texts can be checked. -/
theorem checkable_of_checkItem {item : Item} {handle : Nat} {seen : Seen}
    {result : List Issue × Seen} (h : checkItem item handle seen = .ok result) :
    item.Checkable := by
  intro htruthy
  rw [checkItem, if_pos htruthy] at h
  cases hid : item.id with
  | str id => exact ⟨id, rfl⟩
  | null | bool | int | float | arr | obj => rw [hid] at h; cases h

/-- The check of all nodes accounts for all ids and all that is lacking. -/
theorem accounts_checkNodes {nodes : List Document.Node} (h : ∀ n ∈ nodes, n.item.Checkable)
    (seen : Seen) :
    ∃ issues after, checkNodes seen nodes = .ok issues ∧
      Accounts seen (issues, after) (nodes.flatMap Document.Node.written)
        (nodes.flatMap fun n => lacks n.item n.handle) := by
  induction nodes generalizing seen with
  | nil => exact ⟨[], seen, rfl, .nil seen⟩
  | cons n nodes ih =>
      obtain ⟨hn, hnodes⟩ := List.forall_mem_cons.mp h
      obtain ⟨⟨issues, middle⟩, hcheck, haccounts⟩ := accounts_checkItem hn seen
      obtain ⟨more, after, hmore, hrest⟩ := ih hnodes middle
      refine ⟨issues ++ more, after, ?_, ?_⟩
      · rw [checkNodes, hcheck]
        simp only [bind, Except.bind, hmore]
        rfl
      · rw [List.flatMap_cons, List.flatMap_cons]
        exact haccounts.append hrest

theorem checkable_of_checkNodes {nodes : List Document.Node} {seen : Seen}
    {issues : List Issue} (h : checkNodes seen nodes = .ok issues) :
    ∀ n ∈ nodes, n.item.Checkable := by
  induction nodes generalizing seen issues with
  | nil => exact nofun
  | cons n nodes ih =>
      rw [checkNodes] at h
      cases hcheck : checkItem n.item n.handle seen with
      | error m => rw [hcheck] at h; cases h
      | ok result =>
          simp only [hcheck, bind, Except.bind] at h
          cases hrest : checkNodes result.2 nodes with
          | error m => rw [hrest] at h; cases h
          | ok more => exact List.forall_mem_cons.mpr ⟨checkable_of_checkItem hcheck, ih hrest⟩

/-! ### What items lack, by kind -/

/-- Where every element gives one value or none, the values are those of the elements that
give one. -/
theorem flatMap_eq_map_filter {α β : Type} {f : α → List β} {p : α → Bool} {g : α → β}
    (h : ∀ a, f a = if p a then [g a] else []) (l : List α) :
    l.flatMap f = (l.filter p).map g := by
  induction l with
  | nil => rfl
  | cons a l ih =>
      rw [List.flatMap_cons, ih, h, List.filter_cons]
      split <;> rfl

section Lacks

variable (nodes : List Document.Node)

/-- The findings of one kind among those of all that is lacking. -/
theorem ofCode_flatMap {code : String} {p : Item → Bool} {g : Document.Node → Issue}
    (h : ∀ n : Document.Node, ofCode code (lacks n.item n.handle) =
      if p n.item then [g n] else []) :
    ofCode code (nodes.flatMap fun n => lacks n.item n.handle) =
      (nodes.filter (p ·.item)).map g := by
  rw [ofCode, List.filter_flatMap]
  exact flatMap_eq_map_filter h nodes

theorem ofCode_missingId :
    ofCode "MISSING_ID" (nodes.flatMap fun n => lacks n.item n.handle) =
      (nodes.filter (·.item.lacksId)).map fun n => .missingId n.item.type n.handle := by
  refine ofCode_flatMap nodes fun n => ?_
  rw [lacks_eq, ofCode, List.filter_append, List.filter_append]
  split <;> split <;> split <;> rfl

theorem ofCode_missingChoices :
    ofCode "MISSING_CHOICES" (nodes.flatMap fun n => lacks n.item n.handle) =
      (nodes.filter (·.item.lacksChoices)).map fun n =>
        .missingChoices n.item.type n.item.idText n.handle := by
  refine ofCode_flatMap nodes fun n => ?_
  rw [lacks_eq, ofCode, List.filter_append, List.filter_append]
  split <;> split <;> split <;> rfl

theorem ofCode_missingType :
    ofCode "MISSING_TYPE" (nodes.flatMap fun n => lacks n.item n.handle) =
      (nodes.filter (·.item.lacksType)).map fun n => .missingType n.handle := by
  refine ofCode_flatMap nodes fun n => ?_
  rw [lacks_eq, ofCode, List.filter_append, List.filter_append]
  split <;> split <;> split <;> rfl

end Lacks

/-! ### All findings -/

/-- The findings about a document, kind by kind. -/
structure Exact (d : Document) (issues : List Issue) : Prop where
  /-- A key is told of once, where it stands for the second time, if it does. -/
  duplicates : ∀ id, (ofCode "DUPLICATE_ID" issues).filter (isAbout id) =
    ((d.keys.filter (·.1 = id))[1]?).toList.map fun k => .duplicateId id k.2
  /-- Every id that is badly formed is told of, an empty option id included. -/
  formats : ofCode "INVALID_ID_FORMAT" issues = malformed d.written
  missingIds : ofCode "MISSING_ID" issues =
    (d.outline.filter (·.item.lacksId)).map fun n => .missingId n.item.type n.handle
  missingChoices : ofCode "MISSING_CHOICES" issues =
    (d.outline.filter (·.item.lacksChoices)).map fun n =>
      .missingChoices n.item.type n.item.idText n.handle
  missingTypes : ofCode "MISSING_TYPE" issues =
    (d.outline.filter (·.item.lacksType)).map fun n => .missingType n.handle

/-- All keys are distinct and well formed, and no id, option or type is missing. -/
structure Sound (d : Document) : Prop where
  distinct : (d.keys.map Prod.fst).Nodup
  wellFormed : ∀ k ∈ d.written, isId k.1 = true
  complete : ∀ n ∈ d.outline,
    n.item.lacksId = false ∧ n.item.lacksChoices = false ∧ n.item.lacksType = false

variable {d : Document} {issues : List Issue}

/-- A document whose ids are texts can be checked, and the findings are exact. -/
theorem exact_issues (h : ∀ n ∈ d.outline, n.item.Checkable) :
    ∃ issues, d.issues = .ok issues ∧ Exact d issues := by
  obtain ⟨issues, after, hcheck, haccounts⟩ := accounts_checkNodes h {}
  have hlack {code : String} (hcode : code ≠ "DUPLICATE_ID" ∧ code ≠ "INVALID_ID_FORMAT") :
      ofCode code issues =
        ofCode code (d.outline.flatMap fun n => lacks n.item n.handle) := by
    rw [← haccounts.lacks, ofCode, ofCode, List.filter_filter]
    refine List.filter_congr fun i _ => ?_
    simp only [isLack]
    grind
  refine ⟨issues, hcheck, fun id => ?_, haccounts.formats, ?_, ?_, ?_⟩
  · have hclaims : (claimAll {} d.keys).1 = ofCode "DUPLICATE_ID" issues :=
      congrArg Prod.fst haccounts.claims
    rw [← hclaims]
    exact filter_claimAll_of_fresh (by simp) (by simp) _
  · rw [hlack (by decide), ofCode_missingId]
  · rw [hlack (by decide), ofCode_missingChoices]
  · rw [hlack (by decide), ofCode_missingType]

/-- A document that can be checked has texts as ids. -/
theorem checkable_of_issues (h : d.issues = .ok issues) : ∀ n ∈ d.outline, n.item.Checkable :=
  checkable_of_checkNodes h

theorem mem_ofCode {code : String} {i : Issue} :
    i ∈ ofCode code issues ↔ i ∈ issues ∧ i.code = code := by
  rw [ofCode, List.mem_filter, decide_eq_true_iff]

/-- A key stands more than once if and only if it stands for a second time. -/
theorem second_eq_none_iff (keys : List (String × Nat)) :
    (∀ id, (keys.filter (·.1 = id))[1]? = none) ↔ (keys.map Prod.fst).Nodup := by
  rw [List.nodup_iff_count_le_one]
  refine forall_congr' fun id => ?_
  have hcount : (keys.map Prod.fst).count id = (keys.filter (·.1 = id)).length := by
    rw [List.count, List.countP_map, List.countP_eq_length_filter]
    rfl
  rw [hcount, List.getElem?_eq_none_iff]

/-- There are no findings if and only if there is nothing to find. -/
theorem Exact.eq_nil_iff (h : Exact d issues) : issues = [] ↔ Sound d := by
  constructor
  · rintro rfl
    refine ⟨(second_eq_none_iff d.keys).mp fun id => ?_, fun k hk => ?_, fun n hn => ?_⟩
    · have hnone := (h.duplicates id).symm
      rw [ofCode, List.filter_nil, List.filter_nil, List.map_eq_nil_iff] at hnone
      simpa using hnone
    · have hnone := h.formats.symm
      rw [ofCode, List.filter_nil, malformed, List.map_eq_nil_iff, List.filter_eq_nil_iff] at hnone
      simpa using hnone k hk
    · have hids := h.missingIds.symm
      have hchoices := h.missingChoices.symm
      have htypes := h.missingTypes.symm
      rw [ofCode, List.filter_nil, List.map_eq_nil_iff, List.filter_eq_nil_iff]
        at hids hchoices htypes
      exact ⟨by simpa using hids n hn, by simpa using hchoices n hn, by simpa using htypes n hn⟩
  · intro hsound
    refine List.eq_nil_iff_forall_not_mem.mpr fun i hi => ?_
    have hcode : i ∈ ofCode i.code issues := mem_ofCode.mpr ⟨hi, rfl⟩
    cases i with
    | duplicateId id handle =>
        have habout : isAbout id (.duplicateId id handle) = true := beq_self_eq_true _
        have hmem := List.mem_filter.mpr ⟨hcode, habout⟩
        have hnone := (second_eq_none_iff d.keys).mpr hsound.distinct id
        rw [Issue.code, h.duplicates id, hnone] at hmem
        cases hmem
    | invalidId id handle =>
        rw [Issue.code, h.formats] at hcode
        obtain ⟨k, hk, -⟩ := List.mem_map.mp hcode
        obtain ⟨hmem, hbad⟩ := List.mem_filter.mp hk
        rw [hsound.wellFormed k hmem] at hbad
        cases hbad
    | missingId type handle =>
        rw [Issue.code, h.missingIds] at hcode
        obtain ⟨n, hn, -⟩ := List.mem_map.mp hcode
        obtain ⟨hmem, hlacks⟩ := List.mem_filter.mp hn
        exact absurd hlacks (by simp [(hsound.complete n hmem).1])
    | missingChoices type id handle =>
        rw [Issue.code, h.missingChoices] at hcode
        obtain ⟨n, hn, -⟩ := List.mem_map.mp hcode
        obtain ⟨hmem, hlacks⟩ := List.mem_filter.mp hn
        exact absurd hlacks (by simp [(hsound.complete n hmem).2.1])
    | missingType handle =>
        rw [Issue.code, h.missingTypes] at hcode
        obtain ⟨n, hn, -⟩ := List.mem_map.mp hcode
        obtain ⟨hmem, hlacks⟩ := List.mem_filter.mp hn
        exact absurd hlacks (by simp [(hsound.complete n hmem).2.2])

/-- **The findings are exact**: each key that stands more than once is told of once, each
badly formed id and each lack every time, and there are no findings if and only if there is
nothing to find. -/
theorem issues_exact (d : Document) (h : ∀ n ∈ d.outline, n.item.Checkable) :
    ∃ issues, d.issues = .ok issues ∧ Exact d issues ∧ (issues = [] ↔ Sound d) := by
  obtain ⟨issues, hissues, hexact⟩ := exact_issues h
  exact ⟨issues, hissues, hexact, hexact.eq_nil_iff⟩

/-- A key that stands as the id of a question, as an option id under yes and as an id under
no; an empty option id, and a group without either. -/
def entangled : Document :=
  let question (id : String) : Question := ⟨id, "", false, .null⟩
  ⟨1, [.line (question "a") none,
    .yesNo (question "b")
      [.checkGroup (question "c") ⟨[⟨"a", "A"⟩, ⟨"", "none"⟩], none⟩]
      [.block "inner" .null [.box (question "a") none, .radioGroup (question "") ⟨[], none⟩]],
    .unknown "" (.obj [("id", .str "d e")])]⟩

theorem issues_exact_entangled :
    (∀ n ∈ entangled.outline, n.item.Checkable) ∧
      entangled.issues = .ok [.duplicateId "a" 2, .invalidId "" 2, .missingId "radiogroup" 5,
        .missingChoices "radiogroup" "" 5, .invalidId "d e" 6, .missingType 6] ∧
      ∃ issues, entangled.issues = .ok issues ∧ Exact entangled issues ∧
        (issues = [] ↔ Sound entangled) := by
  have h : ∀ n ∈ entangled.outline, n.item.Checkable := by
    simp [entangled, Document.outline, Document.outlineItems, Document.outlineItem,
      Item.Checkable, Item.id, Item.question?, Json.get?, Json.members, Entries.get?]
  exact ⟨h, by decide +kernel, issues_exact entangled h⟩

end Validation

end Questionnaire
