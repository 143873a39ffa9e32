/-
Reading as a relation.

`Reads part cs rest` says that a part of a value is read off the front of `cs` and leaves
`rest`.  It has a rule for every way in which the reader goes on, and no count of steps.
Reading in steps comes to the same: what is read in any number of steps is read by the
rules, and what is read by the rules is read in twice as many steps as there are
characters.

So what hangs on the text alone is shown by induction over the rules.  The blanks behind a
line feed are a case of it: as long as the line feed stays, there may be more of them or
fewer, further lines among them, and the value stays the same, `parseChars_respaced`.
-/
import Questionnaire.Proofs.Json.Words

namespace Questionnaire.Json

variable {cs ds rest tail more : List Char} {c : Char} {v : Json} {fuel : Nat}

/-- What is read in one go: a value, the items behind an opening bracket or a comma, or
the members there, put to those read before. -/
inductive Part
  | value (v : Json)
  | items (vs : List Json)
  | members (before after : Entries Json)

/-- The part is read off the front of a text and leaves the rest of it. -/
inductive Reads : Part → List Char → List Char → Prop
  | scalar {w behind t : List Char} {v : Json} (ht : LineEnd t) (hw : Scalar w behind v) :
      Reads (.value v) (w ++ behind ++ t) (behind ++ t)
  | text {w s rest : List Char} (hw : Word w s) :
      Reads (.value (.str (String.ofList s))) ('"' :: (w ++ rest)) rest
  | noItems {cs rest : List Char} (hclose : skipSpace cs = ']' :: rest) :
      Reads (.value (.arr [])) ('[' :: cs) rest
  | list {cs rest : List Char} {vs : List Json} (hvs : Reads (.items vs) (skipSpace cs) rest) :
      Reads (.value (.arr vs)) ('[' :: cs) rest
  | noMembers {cs rest : List Char} (hclose : skipSpace cs = '}' :: rest) :
      Reads (.value (.obj [])) ('{' :: cs) rest
  | object {cs rest : List Char} {ms : Entries Json}
      (hms : Reads (.members [] ms) (skipSpace cs) rest) :
      Reads (.value (.obj ms)) ('{' :: cs) rest
  | last {cs tail rest : List Char} {v : Json} (hv : Reads (.value v) cs tail)
      (hclose : skipSpace tail = ']' :: rest) : Reads (.items [v]) cs rest
  | next {cs tail more rest : List Char} {v : Json} {vs : List Json}
      (hv : Reads (.value v) cs tail) (hcomma : skipSpace tail = ',' :: more)
      (hvs : Reads (.items vs) (skipSpace more) rest) : Reads (.items (v :: vs)) cs rest
  | lastMember {w name tail more behind rest : List Char} {ms : Entries Json} {v : Json}
      (hw : Word w name) (hcolon : skipSpace tail = ':' :: more)
      (hv : Reads (.value v) (skipSpace more) behind) (hclose : skipSpace behind = '}' :: rest) :
      Reads (.members ms (ms.set (String.ofList name) v)) ('"' :: (w ++ tail)) rest
  | nextMember {w name tail more behind others rest : List Char} {ms after : Entries Json}
      {v : Json} (hw : Word w name) (hcolon : skipSpace tail = ':' :: more)
      (hv : Reads (.value v) (skipSpace more) behind) (hcomma : skipSpace behind = ',' :: others)
      (hms : Reads (.members (ms.set (String.ofList name) v) after) (skipSpace others) rest) :
      Reads (.members ms after) ('"' :: (w ++ tail)) rest

/-! ### From steps to rules -/

mutual

/-- A value that was read is read by the rules. -/
theorem reads_readValue (fuel : Nat) (cs : List Char) {v : Json} {rest : List Char}
    (h : readValue fuel cs = .ok (v, rest)) : Reads (.value v) cs rest := by
  cases fuel with
  | zero => cases h
  | succ fuel =>
      unfold readValue at h
      split at h
      case h_1 =>
        obtain ⟨⟨s, rest'⟩, hs, heq⟩ := map_eq_ok h
        obtain ⟨rfl, rfl⟩ := Prod.mk.inj heq
        obtain ⟨w, rfl, hw⟩ := readString_word hs
        exact .text hw
      case h_2 =>
        split at h
        case h_1 hclose =>
          obtain ⟨rfl, rfl⟩ := Prod.mk.inj (Except.ok.inj h)
          exact .noItems hclose
        case h_2 =>
          obtain ⟨⟨vs, rest'⟩, hvs, heq⟩ := map_eq_ok h
          obtain ⟨rfl, rfl⟩ := Prod.mk.inj heq
          exact .list (reads_readItems fuel _ hvs)
      case h_3 =>
        split at h
        case h_1 hclose =>
          obtain ⟨rfl, rfl⟩ := Prod.mk.inj (Except.ok.inj h)
          exact .noMembers hclose
        case h_2 =>
          obtain ⟨⟨ms, rest'⟩, hms, heq⟩ := map_eq_ok h
          obtain ⟨rfl, rfl⟩ := Prod.mk.inj heq
          exact .object (reads_readMembers fuel [] _ hms)
      case h_4 =>
        obtain ⟨w, behind, t, rfl, rfl, ht, hw⟩ := readScalar_scalar h
        exact .scalar ht hw

/-- Items that were read are read by the rules. -/
theorem reads_readItems (fuel : Nat) (cs : List Char) {vs : List Json} {rest : List Char}
    (h : readItems fuel cs = .ok (vs, rest)) : Reads (.items vs) cs rest := by
  cases fuel with
  | zero => cases h
  | succ fuel =>
      unfold readItems at h
      obtain ⟨⟨v, tail⟩, hv, h⟩ := bind_eq_ok h
      have hfirst := reads_readValue fuel cs hv
      dsimp only at h
      split at h
      case h_1 hclose =>
        obtain ⟨rfl, rfl⟩ := Prod.mk.inj (Except.ok.inj h)
        exact .last hfirst hclose
      case h_2 hcomma =>
        obtain ⟨⟨others, rest'⟩, hothers, h⟩ := bind_eq_ok h
        obtain ⟨rfl, rfl⟩ := Prod.mk.inj (Except.ok.inj h)
        exact .next hfirst hcomma (reads_readItems fuel _ hothers)
      case h_3 => cases h

/-- Members that were read are read by the rules. -/
theorem reads_readMembers (fuel : Nat) (ms : Entries Json) (cs : List Char)
    {after : Entries Json} {rest : List Char} (h : readMembers fuel ms cs = .ok (after, rest)) :
    Reads (.members ms after) cs rest := by
  cases fuel with
  | zero => cases h
  | succ fuel =>
      unfold readMembers at h
      split at h
      case h_2 => cases h
      case h_1 =>
        obtain ⟨⟨name, tail⟩, hname, hmember⟩ := bind_eq_ok h
        clear h
        obtain ⟨w, rfl, hw⟩ := readString_word hname
        dsimp only at hmember
        split at hmember
        case h_2 => cases hmember
        case h_1 hcolon =>
          obtain ⟨⟨v, behind⟩, hv, h⟩ := bind_eq_ok hmember
          have hvalue := reads_readValue fuel _ hv
          dsimp only at h
          split at h
          case h_1 hclose =>
            obtain ⟨rfl, rfl⟩ := Prod.mk.inj (Except.ok.inj h)
            exact .lastMember hw hcolon hvalue hclose
          case h_2 hcomma =>
            exact .nextMember hw hcolon hvalue hcomma (reads_readMembers fuel _ _ h)
          case h_3 => cases h

end

/-! ### From rules to steps -/

theorem length_skipSpace_le (cs : List Char) : (skipSpace cs).length ≤ cs.length :=
  List.length_dropWhile_le _ _

theorem length_lt_of_skipSpace (h : skipSpace cs = c :: rest) : rest.length < cs.length := by
  have hle := length_skipSpace_le cs
  rw [h, List.length_cons] at hle
  exact hle

namespace Reads

variable {part : Part}

/-- Whatever is read takes a character at least. -/
theorem length_lt (h : Reads part cs rest) : rest.length < cs.length := by
  induction h with
  | @scalar w behind t v ht hw =>
      have hpos := List.length_pos_of_ne_nil hw.nonempty
      simp only [List.length_append]
      omega
  | text hw =>
      simp only [List.length_cons, List.length_append]
      omega
  | noItems hclose | noMembers hclose =>
      have hlt := length_lt_of_skipSpace hclose
      simp only [List.length_cons]
      omega
  | @list cs rest _ _ ih | @object cs rest _ _ ih =>
      have hle := length_skipSpace_le cs
      simp only [List.length_cons]
      omega
  | last _ hclose ih => exact Nat.lt_trans (length_lt_of_skipSpace hclose) ih
  | @next cs tail more rest _ _ _ hcomma _ ihv ihvs =>
      have hlt := length_lt_of_skipSpace hcomma
      have hle := length_skipSpace_le more
      omega
  | @lastMember w name tail more behind rest _ _ _ hcolon _ hclose ih =>
      have hcolon' := length_lt_of_skipSpace hcolon
      have hclose' := length_lt_of_skipSpace hclose
      have hle := length_skipSpace_le more
      simp only [List.length_cons, List.length_append]
      omega
  | @nextMember w name tail more behind others rest _ _ _ _ hcolon _ hcomma _ ihv ihms =>
      have hcolon' := length_lt_of_skipSpace hcolon
      have hcomma' := length_lt_of_skipSpace hcomma
      have hle := length_skipSpace_le more
      have hle' := length_skipSpace_le others
      simp only [List.length_cons, List.length_append]
      omega

end Reads

/-- The characters that a part can begin with. -/
def Part.Begins : Part → Char → Prop
  | .value _, c | .items _, c => beginsValue c = true
  | .members _ _, c => c = '"'

theorem Reads.front {part : Part} (h : Reads part cs rest) :
    ∃ c tail, cs = c :: tail ∧ part.Begins c := by
  induction h with
  | @scalar w behind t v ht hw =>
      obtain ⟨c, tail, heq, hc⟩ := readScalar_front (hw.read t ht)
      exact ⟨c, tail, heq, by simp [Part.Begins, beginsValue, hc]⟩
  | text | noItems | list | noMembers | object =>
      exact ⟨_, _, rfl, by simp [Part.Begins, beginsValue]⟩
  | last _ _ ih | next _ _ _ ih => exact ih
  | lastMember | nextMember => exact ⟨_, _, rfl, rfl⟩

/-- The part is read in so many steps. -/
def Part.ReadIn (fuel : Nat) : Part → List Char → List Char → Prop
  | .value v, cs, rest => readValue fuel cs = .ok (v, rest)
  | .items vs, cs, rest => readItems fuel cs = .ok (vs, rest)
  | .members before after, cs, rest => readMembers fuel before cs = .ok (after, rest)

/-- The steps that are enough for a part of a text. -/
def Part.steps (cs : List Char) : Part → Nat
  | .value _ => 2 * cs.length
  | .items _ | .members _ _ => 2 * cs.length + 1

theorem Part.steps_skipSpace_le (part : Part) (cs : List Char) :
    part.steps (skipSpace cs) ≤ part.steps cs := by
  have hle := length_skipSpace_le cs
  cases part <;> simp only [steps] <;> omega

/-- What is read by the rules is read in steps. -/
theorem Reads.readIn {part : Part} (h : Reads part cs rest) (hfuel : part.steps cs ≤ fuel) :
    part.ReadIn fuel cs rest := by
  have hpred {n fuel : Nat} (hn : n + 1 ≤ fuel) : ∃ k, fuel = k + 1 ∧ n ≤ k :=
    ⟨fuel - 1, by omega, by omega⟩
  induction h generalizing fuel with
  | @scalar w behind t v ht hw =>
      have hpos := List.length_pos_of_ne_nil hw.nonempty
      simp only [Part.steps, List.length_append] at hfuel
      obtain ⟨fuel, rfl, -⟩ := hpred (by omega : 0 + 1 ≤ fuel)
      exact readValue_scalar (hw.read t ht) fuel
  | text hw =>
      obtain ⟨fuel, rfl, -⟩ := hpred hfuel
      rw [Part.ReadIn, readValue, hw.read]
      rfl
  | noItems hclose | noMembers hclose =>
      obtain ⟨fuel, rfl, -⟩ := hpred hfuel
      rw [Part.ReadIn, readValue, hclose]
      rfl
  | @list cs rest vs hvs ih =>
      obtain ⟨fuel, rfl, hsteps⟩ := hpred hfuel
      obtain ⟨c, tail, hfront, hc⟩ := hvs.front
      have hbracket : c ≠ ']' := by
        rintro rfl
        exact absurd hc (by decide : ¬beginsValue ']' = true)
      have hitems := ih (Nat.le_trans (Part.steps_skipSpace_le _ cs) hsteps)
      rw [hfront] at hitems
      exact readValue_arr hfront hbracket hitems
  | @object cs rest ms hms ih =>
      obtain ⟨fuel, rfl, hsteps⟩ := hpred hfuel
      obtain ⟨c, tail, hfront, rfl⟩ := hms.front
      have hmembers := ih (Nat.le_trans (Part.steps_skipSpace_le _ cs) hsteps)
      rw [hfront] at hmembers
      exact readValue_obj hfront hmembers
  | last _ hclose ih =>
      obtain ⟨fuel, rfl, hsteps⟩ := hpred hfuel
      exact readItems_last (ih hsteps) hclose
  | @next cs tail more rest v vs hv hcomma hvs ihv ihvs =>
      obtain ⟨fuel, rfl, hsteps⟩ := hpred hfuel
      have hmore : (Part.items vs).steps (skipSpace more) ≤ fuel := by
        have htail := hv.length_lt
        have hlt := length_lt_of_skipSpace hcomma
        have hle := length_skipSpace_le more
        simp only [Part.steps]
        omega
      exact readItems_next (ihv hsteps) hcomma (ihvs hmore)
  | @lastMember w name tail more behind rest ms v hw hcolon hv hclose ih =>
      obtain ⟨fuel, rfl, hsteps⟩ := hpred hfuel
      have hvalue : (Part.value v).steps (skipSpace more) ≤ fuel := by
        have hlt := length_lt_of_skipSpace hcolon
        have hle := length_skipSpace_le more
        simp only [Part.steps, List.length_cons, List.length_append] at hsteps ⊢
        omega
      exact readMembers_last (hw.read _ tail) hcolon (ih hvalue) hclose
  | @nextMember w name tail more behind others rest ms after v hw hcolon hv hcomma hms ihv ihms =>
      obtain ⟨fuel, rfl, hsteps⟩ := hpred hfuel
      have hlt := length_lt_of_skipSpace hcolon
      have hle := length_skipSpace_le more
      have hvalue : (Part.value v).steps (skipSpace more) ≤ fuel := by
        simp only [Part.steps, List.length_cons, List.length_append] at hsteps ⊢
        omega
      have hothers : Part.steps (skipSpace others) (.members (ms.set (String.ofList name) v) after)
          ≤ fuel := by
        have hbehind := hv.length_lt
        have hcomma' := length_lt_of_skipSpace hcomma
        have hle' := length_skipSpace_le others
        simp only [Part.steps, List.length_cons, List.length_append] at hsteps ⊢
        omega
      rw [Part.ReadIn, readMembers_next (hw.read _ tail) hcolon (ihv hvalue) hcomma]
      exact ihms hothers

/-! ### Whole texts -/

/-- A text gives a value if the value is read off it and leaves no more than blanks. -/
theorem parseChars_eq_ok {text : List Char} :
    parseChars text = .ok v ↔
      ∃ rest, Reads (.value v) (skipSpace text) rest ∧ skipSpace rest = [] := by
  constructor
  · intro h
    unfold parseChars at h
    split at h
    case isTrue => cases h
    case isFalse =>
      obtain ⟨⟨w, rest⟩, hread, h⟩ := bind_eq_ok h
      dsimp only at h
      split at h
      case h_1 hrest =>
        obtain rfl := Except.ok.inj h
        exact ⟨rest, reads_readValue _ _ hread, hrest⟩
      case h_2 => cases h
  · rintro ⟨rest, hreads, hrest⟩
    have hmark : text.head? ≠ some '\uFEFF' := by
      intro hhead
      obtain ⟨c, tail, hfront, hc⟩ := hreads.front
      obtain ⟨text, rfl⟩ := List.head?_eq_some_iff.mp hhead
      rw [skipSpace_cons (by decide)] at hfront
      obtain ⟨rfl, -⟩ := List.cons.inj hfront
      exact absurd hc (by decide : ¬beginsValue '\uFEFF' = true)
    have hread : readValue (2 * text.length + 1) (skipSpace text) = .ok (v, rest) :=
      hreads.readIn (Nat.le_succ_of_le (Part.steps_skipSpace_le (.value v) text))
    rw [parseChars, if_neg hmark, hread]
    simp only [bind, Except.bind, hrest]

theorem parse_eq_ok {text : String} : parse text = .ok v ↔ parseChars text.toList = .ok v := by
  unfold parse
  cases parseChars text.toList with
  | error stop => simp [Except.mapError]
  | ok w => simp [Except.mapError]

/-! ### Blanks behind line feeds -/

/-- Two texts that are the same but for the blanks behind line feeds, and for lines of blanks
at the end. -/
inductive Respaced : List Char → List Char → Prop
  | nil : Respaced [] []
  | char {c : Char} {cs ds : List Char} (hc : c ≠ '\n') (h : Respaced cs ds) :
      Respaced (c :: cs) (c :: ds)
  | feed {cs ds : List Char} (h : Respaced (skipSpace cs) (skipSpace ds)) :
      Respaced ('\n' :: cs) ('\n' :: ds)
  | last {ds : List Char} (h : Respaced [] (skipSpace ds)) : Respaced [] ('\n' :: ds)

theorem isSpace_of_skipSpace (h : skipSpace cs = c :: rest) : isSpace c = false := by
  have hhead := List.head?_dropWhile_not isSpace cs
  rw [show cs.dropWhile isSpace = c :: rest from h] at hhead
  exact hhead

theorem ne_feed_of_skipSpace (h : skipSpace cs = c :: rest) : c ≠ '\n' := by
  rintro rfl
  exact absurd (isSpace_of_skipSpace h) (by decide)

namespace Respaced

theorem skip (h : Respaced cs ds) : Respaced (skipSpace cs) (skipSpace ds) := by
  induction h with
  | nil => exact .nil
  | @char c cs ds hc h ih =>
      by_cases hspace : isSpace c = true
      · rw [skipSpace, skipSpace, List.dropWhile_cons_of_pos hspace,
          List.dropWhile_cons_of_pos hspace]
        exact ih
      · rw [skipSpace_cons (Bool.eq_false_iff.mpr hspace),
          skipSpace_cons (Bool.eq_false_iff.mpr hspace)]
        exact .char hc h
  | feed h => exact h
  | last h => exact h

theorem of_cons (hc : c ≠ '\n') (h : Respaced (c :: cs) ds) :
    ∃ ds', ds = c :: ds' ∧ Respaced cs ds' := by
  cases h with
  | char _ h => exact ⟨_, rfl, h⟩
  | feed => exact absurd rfl hc

/-- Words without line feeds are the same in both texts. -/
theorem of_append {w : List Char} (hw : '\n' ∉ w) (h : Respaced (w ++ cs) ds) :
    ∃ ds', ds = w ++ ds' ∧ Respaced cs ds' := by
  induction w generalizing ds with
  | nil => exact ⟨ds, rfl, h⟩
  | cons c w ih =>
      rw [List.mem_cons, not_or] at hw
      obtain ⟨ds', rfl, htail⟩ := of_cons (Ne.symm hw.1) h
      obtain ⟨ds'', rfl, hrest⟩ := ih hw.2 htail
      exact ⟨ds'', rfl, hrest⟩

theorem append {w : List Char} (hw : '\n' ∉ w) (h : Respaced cs ds) :
    Respaced (w ++ cs) (w ++ ds) := by
  induction w with
  | nil => exact h
  | cons c w ih =>
      rw [List.mem_cons, not_or] at hw
      exact .char (Ne.symm hw.1) (ih hw.2)

theorem lineEnd (h : Respaced cs ds) (hcs : LineEnd cs) : LineEnd ds := by
  cases h with
  | nil => exact hcs
  | char hc => exact absurd (hcs _ rfl) hc
  | feed | last => simp [LineEnd]

/-- What is seen behind the blanks is the same in both texts. -/
theorem seen (h : Respaced cs ds) (hcs : skipSpace cs = c :: rest) :
    ∃ rest', skipSpace ds = c :: rest' ∧ Respaced rest rest' := by
  have hskip := h.skip
  rw [hcs] at hskip
  exact of_cons (ne_feed_of_skipSpace hcs) hskip

theorem unseen (h : Respaced cs ds) (hcs : skipSpace cs = []) : skipSpace ds = [] := by
  have hskip := h.skip
  rw [hcs] at hskip
  generalize hds : skipSpace ds = blank at hskip
  cases hskip with
  | nil => rfl
  | last => exact absurd rfl (ne_feed_of_skipSpace hds)

end Respaced

/-- What is read of a text is read of every text that is blank in other places. -/
theorem Reads.respaced {part : Part} (h : Reads part cs rest) (hds : Respaced cs ds) :
    ∃ rest', Reads part ds rest' ∧ Respaced rest rest' := by
  induction h generalizing ds with
  | @scalar w behind t v ht hw =>
      obtain ⟨t', rfl, hend⟩ := Respaced.of_append hw.feed hds
      have hbehind : '\n' ∉ behind := fun hmem => hw.feed (List.mem_append_right w hmem)
      exact ⟨behind ++ t', .scalar (hend.lineEnd ht) hw, hend.append hbehind⟩
  | @text w s rest hw =>
      obtain ⟨_, rfl, hbody⟩ := Respaced.of_cons (by decide) hds
      obtain ⟨rest', rfl, hrest⟩ := Respaced.of_append hw.feed hbody
      exact ⟨rest', .text hw, hrest⟩
  | noItems hclose =>
      obtain ⟨_, rfl, hbody⟩ := Respaced.of_cons (by decide) hds
      obtain ⟨rest', hclose', hrest⟩ := hbody.seen hclose
      exact ⟨rest', .noItems hclose', hrest⟩
  | list _ ih =>
      obtain ⟨_, rfl, hbody⟩ := Respaced.of_cons (by decide) hds
      obtain ⟨rest', hvs, hrest⟩ := ih hbody.skip
      exact ⟨rest', .list hvs, hrest⟩
  | noMembers hclose =>
      obtain ⟨_, rfl, hbody⟩ := Respaced.of_cons (by decide) hds
      obtain ⟨rest', hclose', hrest⟩ := hbody.seen hclose
      exact ⟨rest', .noMembers hclose', hrest⟩
  | object _ ih =>
      obtain ⟨_, rfl, hbody⟩ := Respaced.of_cons (by decide) hds
      obtain ⟨rest', hms, hrest⟩ := ih hbody.skip
      exact ⟨rest', .object hms, hrest⟩
  | last _ hclose ih =>
      obtain ⟨tail', hv, htail⟩ := ih hds
      obtain ⟨rest', hclose', hrest⟩ := htail.seen hclose
      exact ⟨rest', .last hv hclose', hrest⟩
  | next _ hcomma _ ihv ihvs =>
      obtain ⟨tail', hv, htail⟩ := ihv hds
      obtain ⟨more', hcomma', hmore⟩ := htail.seen hcomma
      obtain ⟨rest', hvs, hrest⟩ := ihvs hmore.skip
      exact ⟨rest', .next hv hcomma' hvs, hrest⟩
  | @lastMember w name tail more behind rest ms v hw hcolon _ hclose ih =>
      obtain ⟨_, rfl, hbody⟩ := Respaced.of_cons (by decide) hds
      obtain ⟨tail', rfl, htail⟩ := Respaced.of_append hw.feed hbody
      obtain ⟨more', hcolon', hmore⟩ := htail.seen hcolon
      obtain ⟨behind', hv, hbehind⟩ := ih hmore.skip
      obtain ⟨rest', hclose', hrest⟩ := hbehind.seen hclose
      exact ⟨rest', .lastMember hw hcolon' hv hclose', hrest⟩
  | @nextMember w name tail more behind others rest ms after v hw hcolon _ hcomma _ ihv ihms =>
      obtain ⟨_, rfl, hbody⟩ := Respaced.of_cons (by decide) hds
      obtain ⟨tail', rfl, htail⟩ := Respaced.of_append hw.feed hbody
      obtain ⟨more', hcolon', hmore⟩ := htail.seen hcolon
      obtain ⟨behind', hv, hbehind⟩ := ihv hmore.skip
      obtain ⟨others', hcomma', hothers⟩ := hbehind.seen hcomma
      obtain ⟨rest', hms, hrest⟩ := ihms hothers.skip
      exact ⟨rest', .nextMember hw hcolon' hv hcomma' hms, hrest⟩

/-- **More blanks or fewer behind the line feeds make no other value.** -/
theorem parseChars_respaced (h : Respaced (skipSpace cs) (skipSpace ds))
    (hcs : parseChars cs = .ok v) : parseChars ds = .ok v := by
  obtain ⟨rest, hreads, hrest⟩ := parseChars_eq_ok.mp hcs
  obtain ⟨rest', hreads', hbehind⟩ := hreads.respaced h
  exact parseChars_eq_ok.mpr ⟨rest', hreads', hbehind.unseen hrest⟩

end Questionnaire.Json
