/-
Which keys are listed.

Keys and names are listed in one text, entry by entry.  What an entry gives, `Entry`, is said of
the text as it is written, with any blanks around a key and around a name: a key with a name, or
nothing, where there is no colon or one of the halves is blank.  A key may hold colons, so that the
last colon is the one that parts the halves.

Reading the list gives back what was written into it, `readKeys_entries`: each key once, with the
name of the last entry that gives one to it.  An entry that gives nothing is as good as not there;
it takes nothing from its neighbours, since commas part the entries before anything else is looked
at.
-/
import Mathlib.Data.List.ReduceOption
import Questionnaire.Api.Access
import Questionnaire.Proofs.Entries
import Questionnaire.Proofs.Text.Plain
import Questionnaire.Proofs.Text.Trimming

namespace Questionnaire

namespace Api

open Text (isBlank trim trimBy)

variable {text key name : List Char}

/-! ### Entries -/

/-- What an entry gives, as it is written. -/
inductive Entry : List Char → Option (String × String) → Prop
  /-- A key that is not blank and has no comma, and a name that is not blank and has neither a
  comma nor a colon, with blanks around both. -/
  | pair {before key after before' name after' : List Char}
      (hbefore : ∀ c ∈ before, isBlank c = true) (hafter : ∀ c ∈ after, isBlank c = true)
      (hbefore' : ∀ c ∈ before', isBlank c = true) (hafter' : ∀ c ∈ after', isBlank c = true)
      (hkey : trim (String.ofList key) ≠ "") (hcomma : ',' ∉ key)
      (hname : trim (String.ofList name) ≠ "") (hcomma' : ',' ∉ name) (hcolon : ':' ∉ name) :
      Entry (before ++ key ++ after ++ ':' :: (before' ++ name ++ after'))
        (some (trim (String.ofList key), trim (String.ofList name)))
  /-- There is no colon, as in a blank text. -/
  | unparted {text : List Char} (hcolon : ':' ∉ text) : Entry text none
  /-- The half in front of the last colon is blank. -/
  | keyless {key name : List Char} (hkey : ∀ c ∈ key, isBlank c = true) (hcolon : ':' ∉ name) :
      Entry (key ++ ':' :: name) none
  /-- The half behind the last colon is blank. -/
  | nameless {key name : List Char} (hcomma : ',' ∉ key) (hname : ∀ c ∈ name, isBlank c = true) :
      Entry (key ++ ':' :: name) none

/-- The last entry that gives a name to the key gives it this one. -/
def GivesLast (givens : List (Option (String × String))) (key name : String) : Prop :=
  ∃ front back, givens = front ++ some (key, name) :: back ∧ ∀ other, some (key, other) ∉ back

/-! ### Blanks -/

section Blanks

variable {front back : List Char}

theorem notMem_of_blank {c : Char} (h : ∀ c ∈ front, isBlank c = true) (hc : isBlank c = false) :
    c ∉ front := by
  intro hmem
  rw [h c hmem] at hc
  cases hc

theorem trim_ofList (cs : List Char) :
    trim (String.ofList cs) = String.ofList (trimBy isBlank cs) := by
  rw [trim, String.toList_ofList]

theorem trim_padded (hfront : ∀ c ∈ front, isBlank c = true) (hback : ∀ c ∈ back, isBlank c = true)
    (cs : List Char) : trim (String.ofList (front ++ cs ++ back)) = trim (String.ofList cs) := by
  rw [trim_ofList, Text.trimBy_padded hfront hback, trim_ofList]

theorem trim_blank (h : ∀ c ∈ front, isBlank c = true) : trim (String.ofList front) = "" := by
  rw [trim_ofList, Text.trimBy_eq, List.dropWhile_eq_nil_iff.mpr h]
  rfl

theorem notMem_padded {c : Char} (hfront : ∀ c ∈ front, isBlank c = true)
    (hback : ∀ c ∈ back, isBlank c = true) (hc : isBlank c = false) (h : c ∉ text) :
    c ∉ front ++ text ++ back := by
  rw [List.mem_append, List.mem_append, not_or, not_or]
  exact ⟨⟨notMem_of_blank hfront hc, h⟩, notMem_of_blank hback hc⟩

theorem notMem_halves {c : Char} (hkey : c ∉ key) (hname : c ∉ name) (hc : c ≠ ':') :
    c ∉ key ++ ':' :: name := by
  rw [List.mem_append, List.mem_cons, not_or, not_or]
  exact ⟨hkey, hc, hname⟩

end Blanks

/-! ### Reading an entry -/

theorem readKey?_of_notMem (h : ':' ∉ text) : readKey? (trim (String.ofList text)) = none := by
  rw [trim_ofList, readKey?, String.toList_ofList,
    Text.splitLast_of_notMem fun hmem => h (Text.mem_of_mem_trimBy hmem)]

/-- The halves of an entry are what the last colon parts, and each is trimmed by itself. -/
theorem readKey?_halves (key : List Char) (hcolon : ':' ∉ name) :
    readKey? (trim (String.ofList (key ++ ':' :: name))) =
      if trim (String.ofList key) = "" ∨ trim (String.ofList name) = "" then none
      else some (trim (String.ofList key), trim (String.ofList name)) := by
  have hname : ':' ∉ name.rdropWhile isBlank :=
    fun hmem => hcolon ((List.rdropWhile_prefix _ _).subset hmem)
  have hfront : trim (String.ofList (key.dropWhile isBlank)) = trim (String.ofList key) := by
    rw [trim_ofList, Text.trimBy_dropWhile, trim_ofList]
  have hback : trim (String.ofList (name.rdropWhile isBlank)) = trim (String.ofList name) := by
    rw [trim_ofList, Text.trimBy_rdropWhile, trim_ofList]
  rw [trim_ofList, Text.trimBy_around (by decide), readKey?, String.toList_ofList,
    Text.splitLast_append _ hname]
  dsimp only
  rw [hfront, hback]
  simp only [Bool.or_eq_true, decide_eq_true_eq]

/-- The keys and the names that the parts of a text give. -/
def readEach (cs : List Char) : Entries String :=
  (Text.splitAll ',' cs).filterMap fun part => readKey? (trim (String.ofList part))

theorem readKeys_eq (cs : List Char) :
    readKeys (String.ofList cs) = Entries.setAll [] (readEach cs) := by
  rw [readKeys, Text.parts, String.toList_ofList, List.filterMap_map, readEach]
  simp only [Function.comp_def]

theorem readEach_of_notMem (h : ',' ∉ text) :
    readEach text = (readKey? (trim (String.ofList text))).toList := by
  rw [readEach, Text.splitAll_of_notMem h, List.filterMap_cons, List.filterMap_nil]
  cases readKey? (trim (String.ofList text)) <;> rfl

theorem readEach_of_unparted (h : ':' ∉ text) : readEach text = [] :=
  List.filterMap_eq_nil_iff.mpr fun _ hpart =>
    readKey?_of_notMem fun hmem => h (Text.mem_of_mem_splitAll hpart hmem)

theorem readEach_of_keyless (hkey : ∀ c ∈ key, isBlank c = true) (hcolon : ':' ∉ name) :
    readEach (key ++ ':' :: name) = [] := by
  -- The name may have commas, but no colon: only its first part has a colon in front.
  have hfront : ',' ∉ key ++ [':'] :=
    notMem_halves (notMem_of_blank hkey (by decide)) List.not_mem_nil (by decide)
  obtain ⟨part, parts, hparts, hwhole⟩ := Text.splitAll_front hfront name
  have hrest (other : List Char) (hother : other ∈ part :: parts) : ':' ∉ other :=
    fun hmem => hcolon (Text.mem_of_mem_splitAll (hparts ▸ hother) hmem)
  rw [List.append_assoc, List.singleton_append] at hwhole
  rw [readEach, hwhole, List.filterMap_eq_nil_iff, List.forall_mem_cons]
  refine ⟨?_, fun other hother => readKey?_of_notMem (hrest other (List.mem_cons_of_mem _ hother))⟩
  rw [List.append_assoc, List.singleton_append,
    readKey?_halves _ (hrest part List.mem_cons_self), if_pos (Or.inl (trim_blank hkey))]

/-- Reading an entry gives what was written into it. -/
theorem readEach_of_entry {given : Option (String × String)} (h : Entry text given) :
    readEach text = given.toList := by
  cases h with
  | pair hbefore hafter hbefore' hafter' hkey hcomma hname hcomma' hcolon =>
      rw [readEach_of_notMem, readKey?_halves, trim_padded hbefore hafter,
        trim_padded hbefore' hafter', if_neg (not_or.mpr ⟨hkey, hname⟩)]
      · exact notMem_padded hbefore' hafter' (by decide) hcolon
      · exact notMem_halves (notMem_padded hbefore hafter (by decide) hcomma)
          (notMem_padded hbefore' hafter' (by decide) hcomma') (by decide)
  | unparted hcolon => exact readEach_of_unparted hcolon
  | keyless hkey hcolon => exact readEach_of_keyless hkey hcolon
  | nameless hcomma hname =>
      rw [readEach_of_notMem, readKey?_halves _ (notMem_of_blank hname (by decide)),
        if_pos (Or.inr (trim_blank hname)), Option.toList_none]
      · exact notMem_halves hcomma (notMem_of_blank hname (by decide)) (by decide)

/-! ### Reading a list of entries -/

section Lists

variable {texts : List (List Char)} {givens : List (Option (String × String))}

theorem readEach_join (cs ds : List Char) :
    readEach (cs ++ ',' :: ds) = readEach cs ++ readEach ds := by
  rw [readEach, Text.splitAll_join, List.filterMap_append, readEach, readEach]

theorem readEach_intercalate (texts : List (List Char)) :
    readEach ([','].intercalate texts) = texts.flatMap readEach := by
  induction texts with
  | nil => exact readEach_of_unparted List.not_mem_nil
  | cons text texts ih =>
      cases texts with
      | nil => simp [List.intercalate]
      | cons next rest =>
          rw [List.intercalate_cons_cons, List.append_assoc, List.singleton_append, readEach_join,
            ih]
          exact List.flatMap_cons.symm

theorem readKeys_eq_setAll (h : List.Forall₂ Entry texts givens) :
    readKeys (String.ofList ([','].intercalate texts)) = Entries.setAll [] givens.reduceOption := by
  rw [readKeys_eq, readEach_intercalate]
  refine congrArg (Entries.setAll []) ?_
  induction h with
  | nil => rfl
  | cons hentry _ ih =>
      rw [List.flatMap_cons, ih, readEach_of_entry hentry, ← List.reduceOption_singleton,
        ← List.reduceOption_append, List.singleton_append]

theorem reduceOption_filter_isSome (givens : List (Option (String × String))) :
    (givens.filter Option.isSome).reduceOption = givens.reduceOption := by
  induction givens with
  | nil => rfl
  | cons given givens ih => cases given <;> simp [ih]

/-- What is given last is given last among what is given at all. -/
theorem givesLast_iff {key name : String} :
    (∃ front back, givens.reduceOption = front ++ (key, name) :: back ∧ key ∉ Entries.names back) ↔
      GivesLast givens key name := by
  constructor
  · rintro ⟨front, back, hgivens, hback⟩
    obtain ⟨before, rest, rfl, -, hrest⟩ := List.filterMap_eq_append_iff.mp hgivens
    obtain ⟨nothing, given, after, rfl, -, hgiven, rfl⟩ := List.filterMap_eq_cons_iff.mp hrest
    obtain rfl : given = some (key, name) := hgiven
    refine ⟨before ++ nothing, after, (List.append_assoc ..).symm, fun other hmem => hback ?_⟩
    exact List.mem_map.mpr ⟨(key, other), List.mem_filterMap.mpr ⟨_, hmem, rfl⟩, rfl⟩
  · rintro ⟨front, back, rfl, hback⟩
    refine ⟨front.reduceOption, back.reduceOption, ?_, fun hmem => ?_⟩
    · rw [List.reduceOption_append, List.reduceOption_cons_of_some]
    · obtain ⟨⟨other, name'⟩, hother, rfl⟩ := List.mem_map.mp hmem
      obtain ⟨given, hgiven, hsome⟩ := List.mem_filterMap.mp hother
      obtain rfl : given = some (other, name') := hsome
      exact hback name' hgiven

theorem get?_readKeys_iff (h : List.Forall₂ Entry texts givens) {key name : String} :
    (readKeys (String.ofList ([','].intercalate texts))).get? key = some name ↔
      GivesLast givens key name := by
  rw [readKeys_eq_setAll h, Entries.get?_setAll_nil_iff, givesLast_iff]

theorem identify_iff {g : Gate} {r : Request} {key name : String} (hclosed : g.isClosed = true)
    (hkey : presentedKey? r = some key) :
    identify g r = .ok name ↔ (readKeys g.keys).get? key = some name := by
  rw [identify, hclosed, hkey]
  cases hkeys : readKeys g.keys with
  | nil => simp
  | cons e es => cases hname : Entries.get? (e :: es) key <;> simp [hname]

/-- **Reading a list of keys gives back what was written into it.**  Each key is there once, with
the name that the last entry for it gives; leaving out the entries that give nothing, or writing the
others with other blanks, changes nothing.  So whoever shows a key at a closed gate acts under that
name, and nobody else acts. -/
theorem readKeys_entries (h : List.Forall₂ Entry texts givens) :
    let listed := String.ofList ([','].intercalate texts)
    (readKeys listed).names.Nodup ∧
      (∀ key name, (readKeys listed).get? key = some name ↔ GivesLast givens key name) ∧
      (∀ others, List.Forall₂ Entry others (givens.filter Option.isSome) →
        readKeys (String.ofList ([','].intercalate others)) = readKeys listed) ∧
      ∀ g r key name, g.keys = listed → g.isClosed = true → presentedKey? r = some key →
        (identify g r = .ok name ↔ GivesLast givens key name) := by
  intro listed
  refine ⟨?_, fun _ _ => get?_readKeys_iff h, fun others hothers => ?_, ?_⟩
  · rw [readKeys_eq_setAll h]
    have hempty : (Entries.names ([] : Entries String)).Nodup := List.nodup_nil
    exact Entries.nodup_setAll hempty _
  · rw [readKeys_eq_setAll h, readKeys_eq_setAll hothers, reduceOption_filter_isSome]
  · rintro g r key name hkeys hclosed hkey
    rw [identify_iff hclosed hkey, hkeys]
    exact get?_readKeys_iff h

end Lists

example : readKeys "k1:ann, ,noname, k2:bob ,:cy,k3:" = [("k1", "ann"), ("k2", "bob")] := by
  decide +kernel

/-- A key with a colon is listed twice, with blanks around it and without; in between stand an entry
without a colon, one without a key and one without a name. -/
theorem readKeys_entries_relisted :
    let texts := [[' ', 'k', ':', 'x', ' ', ':', '\t', 'a'], ['n', 'o'], [':', 'c'],
      ['k', '2', ':', ' '], ['k', ':', 'x', ':', 'e', '\u3000']]
    let givens := [some ("k:x", "a"), none, none, none, some ("k:x", "e")]
    List.Forall₂ Entry texts givens ∧
      (readKeys (String.ofList ([','].intercalate texts))).get? "k:x" = some "e" := by
  intro texts givens
  have hnone : ∀ c ∈ [], isBlank c = true := List.forall_mem_nil _
  have hspace : ∀ c ∈ [' '], isBlank c = true := List.forall_mem_singleton.mpr rfl
  have htab : ∀ c ∈ ['\t'], isBlank c = true := List.forall_mem_singleton.mpr rfl
  have hwide : ∀ c ∈ ['\u3000'], isBlank c = true := List.forall_mem_singleton.mpr rfl
  have hfirst : Entry [' ', 'k', ':', 'x', ' ', ':', '\t', 'a'] (some ("k:x", "a")) :=
    @Entry.pair [' '] ['k', ':', 'x'] [' '] ['\t'] ['a'] [] hspace hspace htab hnone (by decide)
      (by decide) (by decide) (by decide) (by decide)
  have hlast : Entry ['k', ':', 'x', ':', 'e', '\u3000'] (some ("k:x", "e")) :=
    @Entry.pair [] ['k', ':', 'x'] [] [] ['e'] ['\u3000'] hnone hnone hnone hwide (by decide)
      (by decide) (by decide) (by decide) (by decide)
  have hkeyless : Entry [':', 'c'] none := @Entry.keyless [] ['c'] hnone (by decide)
  have hnameless : Entry ['k', '2', ':', ' '] none :=
    @Entry.nameless ['k', '2'] [' '] (by decide) hspace
  have hentries : List.Forall₂ Entry texts givens :=
    .cons hfirst (.cons (.unparted (by decide)) (.cons hkeyless (.cons hnameless
      (.cons hlast .nil))))
  refine ⟨hentries, ((readKeys_entries hentries).2.1 "k:x" "e").mpr ?_⟩
  exact ⟨[some ("k:x", "a"), none, none, none], [], rfl, fun _ => List.not_mem_nil⟩

end Api

end Questionnaire
