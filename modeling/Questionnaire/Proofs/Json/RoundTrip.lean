/-
What was written is read back.

Values are read off the front of a text, so that the lemmas speak of a written value
with anything behind it that cannot be taken for more of a number (`Ends`).  The blanks
of an indented text stand where reading skips them.  The length of the text bounds the
steps: every bracket that is opened takes two of them and is closed again.

Two things are asked of a value.  An object may name each member once only, since a name
that comes again takes the place of the first.  And whole numbers may have no more digits
than reading lets through, `Short`.
-/
import Questionnaire.Proofs.Entries
import Questionnaire.Proofs.Json.Numbers
import Questionnaire.Proofs.Json.Strings

namespace Questionnaire

namespace Json

open Decimal (Double Layout)

mutual

/-- Every whole number has as few digits as a numeral may have. -/
def Short : Json → Prop
  | .int n => Double.digitCount n.natAbs ≤ Text.maxDigits
  | .arr items => AllShort items
  | .obj ms => MembersShort ms
  | _ => True

def AllShort : List Json → Prop
  | [] => True
  | v :: vs => Short v ∧ AllShort vs

def MembersShort : List (String × Json) → Prop
  | [] => True
  | (_, v) :: ms => Short v ∧ MembersShort ms

end

/-- A value that is read back from its text. -/
structure Writable (v : Json) : Prop where
  wellFormed : v.WellFormed
  short : v.Short

theorem writable_null : Writable .null := ⟨trivial, trivial⟩
theorem writable_str (s : String) : Writable (.str s) := ⟨trivial, trivial⟩
theorem writable_bool (b : Bool) : Writable (.bool b) := ⟨trivial, trivial⟩

theorem writable_arr {items : List Json} : Writable (.arr items) ↔ ∀ v ∈ items, v.Writable := by
  induction items with
  | nil => exact ⟨fun _ => by simp, fun _ => ⟨trivial, trivial⟩⟩
  | cons v vs ih =>
      rw [List.forall_mem_cons, ← ih]
      exact ⟨fun h => ⟨⟨h.1.1, h.2.1⟩, ⟨h.1.2, h.2.2⟩⟩,
        fun h => ⟨⟨h.1.1, h.2.1⟩, ⟨h.1.2, h.2.2⟩⟩⟩

theorem membersWritable {ms : List (String × Json)} :
    MembersWellFormed ms ∧ MembersShort ms ↔ ∀ m ∈ ms, m.2.Writable := by
  induction ms with
  | nil => exact ⟨fun _ => by simp, fun _ => ⟨trivial, trivial⟩⟩
  | cons m ms ih =>
      rw [List.forall_mem_cons, ← ih]
      exact ⟨fun h => ⟨⟨h.1.1, h.2.1⟩, ⟨h.1.2, h.2.2⟩⟩,
        fun h => ⟨⟨h.1.1, h.2.1⟩, ⟨h.1.2, h.2.2⟩⟩⟩

theorem writable_obj {ms : List (String × Json)} :
    Writable (.obj ms) ↔ (ms.map Prod.fst).Nodup ∧ ∀ m ∈ ms, m.2.Writable := by
  rw [← membersWritable]
  exact ⟨fun h => ⟨h.1.1, h.1.2, h.2⟩, fun h => ⟨⟨h.1, h.2.1⟩, h.2.2⟩⟩

/-- A style whose indentation is made of blanks. -/
def Style.Blank (style : Style) : Prop :=
  ∀ step ∈ style.indent, ∀ c ∈ step.toList, isSpace c = true

/-! ### Blanks between tokens -/

variable {cs blanks rest : List Char} {c : Char}

theorem skipSpace_blanks (h : ∀ c ∈ blanks, isSpace c = true) :
    skipSpace (blanks ++ cs) = skipSpace cs :=
  List.dropWhile_append_of_pos h

theorem skipSpace_cons (h : isSpace c = false) : skipSpace (c :: cs) = c :: cs :=
  List.dropWhile_cons_of_neg (by simp [h])

theorem skipSpace_blanks_cons (h : ∀ c ∈ blanks, isSpace c = true) (hc : isSpace c = false) :
    skipSpace (blanks ++ c :: cs) = c :: cs := by
  rw [skipSpace_blanks h, skipSpace_cons hc]

theorem Style.Blank.newline {style : Style} (h : style.Blank) (depth : Nat) :
    ∀ c ∈ style.newline depth, isSpace c = true := by
  intro c hc
  unfold Style.newline at hc
  split at hc
  case h_1 => simp at hc
  case h_2 step hstep =>
    rcases List.mem_cons.mp hc with rfl | hc
    · rfl
    · obtain ⟨line, hline, hc⟩ := List.mem_flatten.mp hc
      rw [(List.mem_replicate.mp hline).2] at hc
      exact h step hstep c hc

/-- A comma stands between two items, and blanks behind it. -/
theorem Style.Blank.separator {style : Style} (h : style.Blank) (depth : Nat) :
    ∃ blanks, style.separator depth = ',' :: blanks ∧ ∀ c ∈ blanks, isSpace c = true := by
  unfold Style.separator
  split
  case h_1 =>
    cases style.compact with
    | true => exact ⟨[], rfl, by simp⟩
    | false => exact ⟨[' '], rfl, by simp [isSpace]⟩
  case h_2 => exact ⟨style.newline depth, rfl, h.newline depth⟩

theorem Style.colon_eq (style : Style) :
    ∃ blanks, style.colon = ':' :: blanks ∧ ∀ c ∈ blanks, isSpace c = true := by
  unfold Style.colon
  cases style.compact with
  | true => exact ⟨[], rfl, by simp⟩
  | false => exact ⟨[' '], rfl, by simp [isSpace]⟩

/-! ### Where a value begins -/

/-- The characters that a literal or a number can begin with. -/
def beginsScalar (c : Char) : Bool := isDigit c || ['-', 'n', 't', 'f', 'N', 'I'].contains c

/-- The characters that a value can begin with. -/
def beginsValue (c : Char) : Bool := beginsScalar c || ['"', '[', '{'].contains c

theorem wholePart?_front {read : List Char × List Char} (h : wholePart? cs = some read) :
    ∃ d tail, cs = d :: tail ∧ isDigit d = true := by
  cases cs with
  | nil => simp [wholePart?] at h
  | cons d tail =>
      refine ⟨d, tail, rfl, ?_⟩
      by_contra hdigit
      unfold wholePart? at h
      split at h
      case h_1 heq =>
        injection heq with hd
        subst hd
        exact hdigit rfl
      case h_2 => simp [List.takeWhile_cons_of_neg hdigit] at h

/-- A number begins with a digit, or with a sign and a digit. -/
theorem readNumber_front {read : Json × List Char} (h : readNumber cs = .ok read) :
    ∃ d tail, isDigit d = true ∧ (cs = d :: tail ∨ cs = '-' :: d :: tail) := by
  unfold readNumber at h
  simp only at h
  split at h
  case h_1 => exact absurd h (by simp)
  case h_2 hsome =>
    obtain ⟨d, tail, hbody, hd⟩ := wholePart?_front hsome
    refine ⟨d, tail, hd, ?_⟩
    split at hbody
    case h_1 => exact .inr (congrArg ('-' :: ·) hbody)
    case h_2 => exact .inl hbody

/-- What begins as no literal does is read as a number. -/
theorem readScalar_number {c : Char} {tail : List Char}
    (hletter : c ∉ ['n', 't', 'f', 'N', 'I']) (hminus : c = '-' → tail.head? ≠ some 'I') :
    readScalar (c :: tail) = readNumber (c :: tail) := by
  rw [readScalar]
  case x_6 =>
    rintro rest heq
    obtain ⟨hc, htail⟩ := List.cons.inj heq
    exact hminus hc (by rw [htail]; rfl)
  all_goals
    rintro rest heq
    obtain ⟨hc, -⟩ := List.cons.inj heq
    exact hletter (by rw [hc]; decide)

theorem readScalar_of_readNumber {read : Json × List Char} (h : readNumber cs = .ok read) :
    readScalar cs = .ok read := by
  obtain ⟨d, tail, hd, hfront⟩ := readNumber_front h
  have hletter : d ∉ ['n', 't', 'f', 'N', 'I'] := by
    intro hmem
    simp only [List.mem_cons, List.not_mem_nil, or_false] at hmem
    obtain rfl | rfl | rfl | rfl | rfl := hmem <;> exact absurd hd (by decide)
  rcases hfront with rfl | rfl
  · rw [readScalar_number hletter]
    · exact h
    · rintro rfl
      exact absurd hd (by decide)
  · rw [readScalar_number (by decide)]
    · exact h
    · rintro - hI
      exact hletter (by rw [Option.some.inj hI]; decide)

theorem readScalar_front {read : Json × List Char} (h : readScalar cs = .ok read) :
    ∃ c tail, cs = c :: tail ∧ beginsScalar c = true := by
  cases cs with
  | nil => cases h
  | cons c tail =>
      refine ⟨c, tail, rfl, ?_⟩
      by_contra hc
      simp only [beginsScalar, Bool.or_eq_true, not_or, List.contains_iff_mem] at hc
      obtain ⟨hdigit, hletter⟩ := hc
      rw [readScalar_number (fun hmem => hletter (List.mem_cons_of_mem '-' hmem))] at h
      · obtain ⟨d, tail, hd, heq | heq⟩ := readNumber_front h
        · exact hdigit ((List.cons.inj heq).1 ▸ hd)
        · exact hletter (by rw [(List.cons.inj heq).1]; decide)
      · rintro rfl
        exact absurd hletter (by decide)

/-- What is no string, list or object is read as a literal or a number. -/
theorem readValue_scalar {read : Json × List Char} (h : readScalar cs = .ok read) (fuel : Nat) :
    readValue (fuel + 1) cs = .ok read := by
  obtain ⟨c, tail, rfl, hc⟩ := readScalar_front h
  rw [readValue]
  · exact h
  all_goals
    rintro rest heq
    injection heq with heq
    subst heq
    exact absurd hc (by decide)

/-! ### Steps of reading -/

theorem readValue_arr {items : List Json} {c : Char} {tail : List Char} {fuel : Nat}
    (hfront : skipSpace cs = c :: tail) (hc : c ≠ ']')
    (hitems : readItems fuel (c :: tail) = .ok (items, rest)) :
    readValue (fuel + 1) ('[' :: cs) = .ok (.arr items, rest) := by
  rw [readValue, hfront]
  split
  case h_1 heq =>
    injection heq with heq
    exact absurd heq hc
  case h_2 => rw [hitems]; rfl

theorem readValue_obj {ms : Entries Json} {tail : List Char} {fuel : Nat}
    (hfront : skipSpace cs = '"' :: tail)
    (hms : readMembers fuel [] ('"' :: tail) = .ok (ms, rest)) :
    readValue (fuel + 1) ('{' :: cs) = .ok (.obj ms, rest) := by
  rw [readValue, hfront]
  split
  case h_1 heq =>
    injection heq with heq
    exact absurd heq (by decide)
  case h_2 => rw [hms]; rfl

/-- The last item, with the bracket behind it. -/
theorem readItems_last {v : Json} {tail : List Char} {fuel : Nat}
    (hv : readValue fuel cs = .ok (v, tail)) (hclose : skipSpace tail = ']' :: rest) :
    readItems (fuel + 1) cs = .ok ([v], rest) := by
  rw [readItems, hv]
  simp only [bind, Except.bind, hclose]

/-- An item with a comma behind it. -/
theorem readItems_next {v : Json} {vs : List Json} {tail more : List Char} {fuel : Nat}
    (hv : readValue fuel cs = .ok (v, tail)) (hcomma : skipSpace tail = ',' :: more)
    (hvs : readItems fuel (skipSpace more) = .ok (vs, rest)) :
    readItems (fuel + 1) cs = .ok (v :: vs, rest) := by
  rw [readItems, hv]
  simp only [bind, Except.bind, hcomma, hvs]

/-- The last member, with the brace behind it. -/
theorem readMembers_last {before : Entries Json} {name : List Char} {v : Json}
    {colon text tail : List Char} {fuel : Nat}
    (hname : readString ('"' :: cs) cs = .ok (name, colon)) (hcolon : skipSpace colon = ':' :: text)
    (hv : readValue fuel (skipSpace text) = .ok (v, tail)) (hclose : skipSpace tail = '}' :: rest) :
    readMembers (fuel + 1) before ('"' :: cs) =
      .ok (before.set (String.ofList name) v, rest) := by
  rw [readMembers, hname]
  simp only [bind, Except.bind, hcolon, hv, hclose]

/-- A member with a comma behind it. -/
theorem readMembers_next {before : Entries Json} {name : List Char} {v : Json}
    {colon text tail more : List Char} {fuel : Nat}
    (hname : readString ('"' :: cs) cs = .ok (name, colon)) (hcolon : skipSpace colon = ':' :: text)
    (hv : readValue fuel (skipSpace text) = .ok (v, tail)) (hcomma : skipSpace tail = ',' :: more) :
    readMembers (fuel + 1) before ('"' :: cs) =
      readMembers fuel (before.set (String.ofList name) v) (skipSpace more) := by
  rw [readMembers, hname]
  simp only [bind, Except.bind, hcolon, hv, hcomma]

/-! ### Values -/

variable {style : Style} {depth : Nat}

/-- The items of a list. -/
def itemsText (style : Style) (depth : Nat) : List Json → List Char
  | [] => []
  | v :: vs => writeAt style depth v ++ writeItems style depth vs

/-- The members of an object. -/
def membersText (style : Style) (depth : Nat) : List (String × Json) → List Char
  | [] => []
  | (name, v) :: ms =>
    writeString style.ascii name ++ style.colon ++ writeAt style depth v ++
      writeMembers style depth ms

theorem writeAt_arr (v : Json) (vs : List Json) :
    writeAt style depth (.arr (v :: vs)) =
      '[' :: (style.newline (depth + 1) ++ itemsText style (depth + 1) (v :: vs) ++
        style.newline depth ++ [']']) := by
  simp [writeAt, itemsText]

theorem writeAt_obj (name : String) (v : Json) (ms : List (String × Json)) :
    writeAt style depth (.obj ((name, v) :: ms)) =
      '{' :: (style.newline (depth + 1) ++ membersText style (depth + 1) ((name, v) :: ms) ++
        style.newline depth ++ ['}']) := by
  simp [writeAt, membersText]

theorem writeItems_cons (v : Json) (vs : List Json) :
    writeItems style depth (v :: vs) =
      style.separator depth ++ itemsText style depth (v :: vs) := by
  simp [writeItems, itemsText]

theorem writeMembers_cons (name : String) (v : Json) (ms : List (String × Json)) :
    writeMembers style depth ((name, v) :: ms) =
      style.separator depth ++ membersText style depth ((name, v) :: ms) := by
  simp [writeMembers, membersText]

theorem ends_cons (h : isDigit c = false ∧ c ≠ '.' ∧ c ≠ 'e' ∧ c ≠ 'E') : Ends (c :: rest) := by
  rintro d ⟨⟩
  exact h

theorem ends_space (h : isSpace c = true) : Ends (c :: rest) := by
  refine ends_cons ?_
  simp only [isSpace, Bool.or_eq_true, decide_eq_true_eq] at h
  obtain ((rfl | rfl) | rfl) | rfl := h <;> decide

theorem ends_nil : Ends [] := by simp [Ends]

/-- Behind blanks comes what ends a number, if it does so itself. -/
theorem ends_blanks (hblanks : ∀ c ∈ blanks, isSpace c = true) (h : Ends rest) :
    Ends (blanks ++ rest) := by
  cases blanks with
  | nil => exact h
  | cons c blanks => exact ends_space (hblanks c List.mem_cons_self)

/-- A literal or a number that is written is read back. -/
theorem readScalar_double (x : Double) (hrest : Ends rest) :
    readScalar ((Layout.document.text x).toList ++ rest) = .ok (.float x, rest) := by
  cases x with
  | nan => rfl
  | infinite negative => cases negative <;> rfl
  | finite x => exact readScalar_of_readNumber (readNumber_double x hrest)

/-- Where a written value begins. -/
theorem writeAt_front (style : Style) (depth : Nat) (v : Json) (hshort : v.Short) :
    ∃ c tail, writeAt style depth v = c :: tail ∧ beginsValue c = true := by
  have hscalar {text : List Char} {read : Json × List Char} (h : readScalar text = .ok read) :
      ∃ c tail, text = c :: tail ∧ beginsValue c = true := by
    obtain ⟨c, tail, rfl, hc⟩ := readScalar_front h
    exact ⟨c, tail, rfl, by rw [beginsValue, hc, Bool.true_or]⟩
  cases v with
  | null => exact ⟨'n', _, rfl, rfl⟩
  | bool b => cases b <;> exact ⟨_, _, rfl, rfl⟩
  | int n =>
      have hread := readScalar_of_readNumber (readNumber_int hshort ends_nil)
      rw [List.append_nil] at hread
      exact hscalar hread
  | float x =>
      have hread := readScalar_double x ends_nil
      rw [List.append_nil] at hread
      exact hscalar hread
  | str s => exact ⟨'"', _, rfl, rfl⟩
  | arr items =>
      cases items with
      | nil => exact ⟨'[', _, rfl, rfl⟩
      | cons v vs => exact ⟨'[', _, writeAt_arr v vs, rfl⟩
  | obj ms =>
      cases ms with
      | nil => exact ⟨'{', _, rfl, rfl⟩
      | cons m ms => exact ⟨'{', _, writeAt_obj m.1 m.2 ms, rfl⟩

theorem isSpace_of_beginsValue (h : beginsValue c = true) : isSpace c = false := by
  by_contra hspace
  simp only [isSpace, Bool.not_eq_false, Bool.or_eq_true, decide_eq_true_eq] at hspace
  obtain ((rfl | rfl) | rfl) | rfl := hspace <;> exact absurd h (by decide)

/-- Blanks in front of a value are skipped. -/
theorem skipSpace_writeAt (v : Json) (hshort : v.Short) (hblanks : ∀ c ∈ blanks, isSpace c = true) :
    skipSpace (blanks ++ (writeAt style depth v ++ rest)) = writeAt style depth v ++ rest := by
  obtain ⟨c, tail, hfront, hc⟩ := writeAt_front style depth v hshort
  rw [hfront, List.cons_append, skipSpace_blanks_cons hblanks (isSpace_of_beginsValue hc)]

/-- Blanks in front of items are skipped. -/
theorem skipSpace_itemsText (style : Style) (depth : Nat) (rest : List Char) {items : List Json}
    (hitems : items ≠ []) (hshort : AllShort items) (hblanks : ∀ c ∈ blanks, isSpace c = true) :
    skipSpace (blanks ++ (itemsText style depth items ++ rest)) =
      itemsText style depth items ++ rest := by
  obtain ⟨v, vs, rfl⟩ := List.exists_cons_of_ne_nil hitems
  rw [itemsText, List.append_assoc, skipSpace_writeAt v hshort.1 hblanks]

/-- Items are not taken for the end of the list. -/
theorem itemsText_front (style : Style) (depth : Nat) {items : List Json} (hitems : items ≠ [])
    (hshort : AllShort items) :
    ∃ c tail, itemsText style depth items = c :: tail ∧ c ≠ ']' := by
  obtain ⟨v, vs, rfl⟩ := List.exists_cons_of_ne_nil hitems
  obtain ⟨c, tail, hfront, hc⟩ := writeAt_front style depth v hshort.1
  refine ⟨c, tail ++ writeItems style depth vs, by rw [itemsText, hfront, List.cons_append], ?_⟩
  rintro rfl
  exact absurd hc (by decide)

/-- The first name of written members, and what is behind it. -/
theorem membersText_cons (name : String) (v : Json) (ms : List (String × Json)) :
    membersText style depth ((name, v) :: ms) ++ rest =
      '"' :: (name.toList.flatMap (escapeChar style.ascii) ++ '"' ::
        (style.colon ++ (writeAt style depth v ++ (writeMembers style depth ms ++ rest)))) := by
  rw [membersText, List.append_assoc, List.append_assoc, List.append_assoc, writeString_append]

theorem skipSpace_membersText {ms : List (String × Json)} (hms : ms ≠ [])
    (hblanks : ∀ c ∈ blanks, isSpace c = true) :
    skipSpace (blanks ++ (membersText style depth ms ++ rest)) =
      membersText style depth ms ++ rest := by
  obtain ⟨m, ms, rfl⟩ := List.exists_cons_of_ne_nil hms
  rw [membersText_cons, skipSpace_blanks_cons hblanks rfl]

/-- Behind a value comes what ends a number: the closing bracket or the next comma. -/
theorem ends_writeItems (hstyle : style.Blank) (items : List Json)
    (hblanks : ∀ c ∈ blanks, isSpace c = true) :
    Ends (writeItems style depth items ++ (blanks ++ ']' :: rest)) := by
  cases items with
  | nil =>
      show Ends (blanks ++ ']' :: rest)
      exact ends_blanks hblanks (ends_cons (by decide))
  | cons v vs =>
      obtain ⟨gap, hgap, -⟩ := hstyle.separator depth
      rw [writeItems_cons, hgap]
      exact ends_cons (by decide)

theorem ends_writeMembers (hstyle : style.Blank) (ms : List (String × Json))
    (hblanks : ∀ c ∈ blanks, isSpace c = true) :
    Ends (writeMembers style depth ms ++ (blanks ++ '}' :: rest)) := by
  cases ms with
  | nil =>
      show Ends (blanks ++ '}' :: rest)
      exact ends_blanks hblanks (ends_cons (by decide))
  | cons m ms =>
      obtain ⟨gap, hgap, -⟩ := hstyle.separator depth
      rw [writeMembers_cons, hgap]
      exact ends_cons (by decide)

mutual

/-- **A written value is read back**, whatever ends it. -/
theorem readValue_writeAt (hstyle : style.Blank) (v : Json) (hwell : v.WellFormed)
    (hshort : v.Short) (depth fuel : Nat) (rest : List Char) (hrest : Ends rest)
    (hfuel : (writeAt style depth v).length ≤ fuel) :
    readValue fuel (writeAt style depth v ++ rest) = .ok (v, rest) := by
  obtain ⟨c, tail, hfront, -⟩ := writeAt_front style depth v hshort
  obtain ⟨fuel, rfl⟩ : ∃ n, fuel = n + 1 := by
    refine Nat.exists_eq_succ_of_ne_zero ?_
    rintro rfl
    simp [hfront] at hfuel
  cases v with
  | null => rfl
  | bool b => cases b <;> rfl
  | int n => exact readValue_scalar (readScalar_of_readNumber (readNumber_int hshort hrest)) fuel
  | float x => exact readValue_scalar (readScalar_double x hrest) fuel
  | str s =>
      rw [writeAt, writeString_append, readValue]
      simp only [readString_escaped, Except.map, String.ofList_toList]
  | arr items =>
      cases items with
      | nil => rfl
      | cons v vs =>
          rw [writeAt_arr] at hfuel ⊢
          simp only [List.length_cons, List.length_append] at hfuel
          have hitems := List.cons_ne_nil v vs
          have hskip := skipSpace_itemsText style (depth + 1) (style.newline depth ++ ']' :: rest)
            hitems hshort (hstyle.newline (depth + 1))
          obtain ⟨c, tail, hfront, hc⟩ :=
            itemsText_front style (depth + 1) hitems hshort
          have hread := readItems_itemsText hstyle (v :: vs) hitems hwell hshort
            (depth + 1) fuel (style.newline depth) rest (hstyle.newline depth) (by omega)
          simp only [List.cons_append, List.append_assoc, List.nil_append]
          rw [hfront, List.cons_append] at hskip hread ⊢
          exact readValue_arr hskip hc hread
  | obj ms =>
      cases ms with
      | nil => rfl
      | cons m ms =>
          obtain ⟨name, v⟩ := m
          rw [writeAt_obj] at hfuel ⊢
          simp only [List.length_cons, List.length_append] at hfuel
          have hread := readMembers_membersText hstyle ((name, v) :: ms) (List.cons_ne_nil _ ms) []
            hwell.1 hwell.2 hshort (depth + 1) fuel (style.newline depth) rest
            (hstyle.newline depth) (by omega)
          simp only [List.cons_append, List.append_assoc, List.nil_append]
          rw [membersText_cons] at hread ⊢
          exact readValue_obj (skipSpace_blanks_cons (hstyle.newline (depth + 1)) rfl) hread

/-- Written items are read back up to the bracket that closes them. -/
theorem readItems_itemsText (hstyle : style.Blank) (items : List Json) (hitems : items ≠ [])
    (hwell : AllWellFormed items) (hshort : AllShort items) (depth fuel : Nat)
    (blanks rest : List Char) (hblanks : ∀ c ∈ blanks, isSpace c = true)
    (hfuel : (itemsText style depth items).length < fuel) :
    readItems fuel (itemsText style depth items ++ (blanks ++ ']' :: rest)) =
      .ok (items, rest) := by
  obtain ⟨fuel, rfl⟩ := Nat.exists_eq_succ_of_ne_zero (Nat.ne_zero_of_lt hfuel)
  cases items with
  | nil => exact absurd rfl hitems
  | cons v vs =>
      rw [itemsText, List.length_append] at hfuel
      have hv := readValue_writeAt hstyle v hwell.1 hshort.1 depth fuel
        (writeItems style depth vs ++ (blanks ++ ']' :: rest)) (ends_writeItems hstyle vs hblanks)
        (by omega)
      rw [itemsText, List.append_assoc]
      cases vs with
      | nil => exact readItems_last hv (skipSpace_blanks_cons hblanks rfl)
      | cons w ws =>
          obtain ⟨gap, hgap, hspaces⟩ := hstyle.separator depth
          have hitems := List.cons_ne_nil w ws
          have hcomma : writeItems style depth (w :: ws) ++ (blanks ++ ']' :: rest) =
              ',' :: (gap ++ (itemsText style depth (w :: ws) ++ (blanks ++ ']' :: rest))) := by
            rw [writeItems_cons, hgap, List.append_assoc, List.cons_append]
          have hlength : (writeItems style depth (w :: ws)).length =
              gap.length + 1 + (itemsText style depth (w :: ws)).length := by
            rw [writeItems_cons, hgap, List.length_append, List.length_cons]
          have hread := readItems_itemsText hstyle (w :: ws) hitems hwell.2 hshort.2 depth fuel
            blanks rest hblanks (by omega)
          rw [← skipSpace_itemsText style depth _ hitems hshort.2 hspaces] at hread
          exact readItems_next hv (by rw [hcomma, skipSpace_cons rfl]) hread

/-- Written members are read back up to the brace that closes them, and put to those before. -/
theorem readMembers_membersText (hstyle : style.Blank) (ms : List (String × Json))
    (hms : ms ≠ []) (before : Entries Json)
    (hnames : (before.names ++ ms.map Prod.fst).Nodup) (hwell : MembersWellFormed ms)
    (hshort : MembersShort ms) (depth fuel : Nat)
    (blanks rest : List Char) (hblanks : ∀ c ∈ blanks, isSpace c = true)
    (hfuel : (membersText style depth ms).length < fuel) :
    readMembers fuel before (membersText style depth ms ++ (blanks ++ '}' :: rest)) =
      .ok (before ++ ms, rest) := by
  obtain ⟨fuel, rfl⟩ := Nat.exists_eq_succ_of_ne_zero (Nat.ne_zero_of_lt hfuel)
  cases ms with
  | nil => exact absurd rfl hms
  | cons m ms =>
      obtain ⟨name, v⟩ := m
      simp only [membersText, List.length_append] at hfuel
      have hv := readValue_writeAt hstyle v hwell.1 hshort.1 depth fuel
        (writeMembers style depth ms ++ (blanks ++ '}' :: rest))
        (ends_writeMembers hstyle ms hblanks) (by omega)
      obtain ⟨space, hcolon, hspaces⟩ := style.colon_eq
      have hset : before.set (String.ofList name.toList) v = before ++ [(name, v)] := by
        rw [String.ofList_toList]
        refine Entries.set_of_notMem (fun hmem => ?_) v
        exact (List.nodup_append.mp hnames).2.2 name hmem name List.mem_cons_self rfl
      have hname (opening : List Char) := readString_escaped style.ascii opening name.toList
        (style.colon ++ (writeAt style depth v ++
          (writeMembers style depth ms ++ (blanks ++ '}' :: rest))))
      rw [hcolon, List.cons_append] at hname
      -- The value stands behind the colon and its blank.
      rw [← skipSpace_writeAt v hshort.1 hspaces] at hv
      rw [membersText_cons, hcolon, List.cons_append]
      cases ms with
      | nil =>
          rw [readMembers_last (hname _) (skipSpace_cons rfl) hv
            (skipSpace_blanks_cons hblanks rfl), hset]
      | cons n ns =>
          obtain ⟨gap, hgap, hspaces⟩ := hstyle.separator depth
          have hms := List.cons_ne_nil n ns
          have hcomma : writeMembers style depth (n :: ns) ++ (blanks ++ '}' :: rest) =
              ',' :: (gap ++ (membersText style depth (n :: ns) ++ (blanks ++ '}' :: rest))) := by
            rw [writeMembers_cons, hgap, List.append_assoc, List.cons_append]
          have hlength : (writeMembers style depth (n :: ns)).length =
              gap.length + 1 + (membersText style depth (n :: ns)).length := by
            rw [writeMembers_cons, hgap, List.length_append, List.length_cons]
          have hnames' : ((before ++ [(name, v)] : Entries Json).names ++
              (n :: ns).map Prod.fst).Nodup := by
            simpa [Entries.names] using hnames
          have hread := readMembers_membersText hstyle (n :: ns) hms (before ++ [(name, v)]) hnames'
            hwell.2 hshort.2 depth fuel blanks rest hblanks (by omega)
          rw [readMembers_next (hname _) (skipSpace_cons rfl) hv
            (by rw [hcomma, skipSpace_cons rfl]), hset, skipSpace_membersText hms hspaces, hread,
            List.append_assoc, List.singleton_append]

end

/-! ### Whole texts -/

/-- **A text that was written for a value is parsed as that value.** -/
theorem parse_write {style : Style} {v : Json} (hstyle : style.Blank) (hv : v.Writable) :
    parse (write style v) = .ok v := by
  obtain ⟨hwell, hshort⟩ := hv
  obtain ⟨c, tail, hfront, hc⟩ := writeAt_front style 0 v hshort
  have hmark : (writeAt style 0 v).head? ≠ some '\uFEFF' := by
    rw [hfront]
    rintro ⟨⟩
    exact absurd hc (by decide)
  have hread := readValue_writeAt hstyle v hwell hshort 0 (2 * (writeAt style 0 v).length + 1) []
    ends_nil (by omega)
  have hskip : skipSpace (writeAt style 0 v) = writeAt style 0 v ++ [] := by
    rw [hfront, skipSpace_cons (isSpace_of_beginsValue hc), List.append_nil]
  rw [parse, write, String.toList_ofList, parseChars, if_neg hmark, hskip, hread]
  rfl

end Json

end Questionnaire
