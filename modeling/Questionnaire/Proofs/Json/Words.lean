/-
Tokens as words.

What reading takes off the front of a text for a string, a literal or a number is a word
without line feeds.  A string is read from its word whatever follows it, `readString_word`.
A number may go on behind its word, so that for it the most that can be said is that a line
feed, or the end of the text, keeps apart what is read from what follows,
`readScalar_scalar`.
-/
import Questionnaire.Proofs.Json.Parsed

namespace Questionnaire.Json

variable {cs rest w s : List Char}

/-! ### Strings -/

/-- The rest of a string, which is read the same whatever stands around it. -/
structure Word (w s : List Char) : Prop where
  feed : '\n' ∉ w
  read : ∀ opening rest, readString opening (w ++ rest) = .ok (s, rest)

theorem hexDigit?_feed : hexDigit? '\n' = none := by decide

theorem ne_feed_of_hex4? {a b c d : Char} {n : Nat} (h : hex4? a b c d = some n) :
    '\n' ∉ [a, b, c, d] := by
  unfold hex4? at h
  intro hmem
  simp only [List.mem_cons, List.not_mem_nil, or_false] at hmem
  rcases hmem with rfl | rfl | rfl | rfl <;> simp [hexDigit?_feed] at h

/-- An escape by number has four digits, and the string goes on behind it. -/
theorem exists_hex4?_of_read {opening : List Char} {read : List Char × List Char}
    (h : readString opening ('\\' :: 'u' :: cs) = .ok read) :
    ∃ a b c d e tail n, cs = a :: b :: c :: d :: e :: tail ∧ hex4? a b c d = some n := by
  rcases cs with _ | ⟨a, _ | ⟨b, _ | ⟨c, _ | ⟨d, _ | ⟨e, tail⟩⟩⟩⟩⟩
  case cons.cons.cons.cons.cons =>
    rw [readString] at h
    cases hn : hex4? a b c d with
    | none => simp [hn] at h
    | some n => exact ⟨a, b, c, d, e, tail, n, rfl, hn⟩
  all_goals simp [readString] at h

namespace Word

theorem quote : Word ['"'] [] where
  feed := by decide
  read opening rest := by rw [List.singleton_append, readString]

theorem plain {c : Char} (hquote : c ≠ '"') (hslash : c ≠ '\\') (hcontrol : ¬c.toNat < 0x20)
    (h : Word w s) : Word (c :: w) (c :: s) where
  feed := by
    rw [List.mem_cons, not_or]
    refine ⟨?_, h.feed⟩
    rintro rfl
    exact hcontrol (by decide)
  read opening rest := by
    rw [List.cons_append, readString_plain hquote hslash hcontrol, h.read]
    rfl

theorem short {e x : Char} (hx : shortEscape? e = some x) (h : Word w s) :
    Word ('\\' :: e :: w) (x :: s) where
  feed := by
    have he : e ≠ '\n' := by
      rintro rfl
      cases hx
    simp [h.feed, he.symm]
  read opening rest := by
    rw [List.cons_append, List.cons_append, readString_short hx, h.read]
    rfl

/-- A string does not end before its quote. -/
theorem exists_cons (h : Word w s) : ∃ e tail, w = e :: tail := by
  cases w with
  | nil =>
      have hread := h.read [] []
      rw [List.append_nil, readString] at hread
      cases hread
  | cons e tail => exact ⟨e, tail, rfl⟩

/-- Two escapes by number that are the halves of a pair. -/
theorem pair {a b c d a' b' c' d' : Char} {high low : Nat} (hn : hex4? a b c d = some high)
    (hm : hex4? a' b' c' d' = some low) (hhigh : isHighSurrogate high = true)
    (hlow : isLowSurrogate low = true) (h : Word w s) :
    Word ('\\' :: 'u' :: a :: b :: c :: d :: '\\' :: 'u' :: a' :: b' :: c' :: d' :: w)
      (pairChar high low :: s) where
  feed := by
    have hfirst := ne_feed_of_hex4? hn
    have hsecond := ne_feed_of_hex4? hm
    simp only [List.mem_cons, List.not_mem_nil, or_false, not_or] at hfirst hsecond ⊢
    exact ⟨by decide, by decide, hfirst.1, hfirst.2.1, hfirst.2.2.1, hfirst.2.2.2, by decide,
      by decide, hsecond.1, hsecond.2.1, hsecond.2.2.1, hsecond.2.2.2, h.feed⟩
  read opening rest := by
    have hread := h.read opening rest
    obtain ⟨e, tail, rfl⟩ := h.exists_cons
    simp only [List.cons_append] at hread ⊢
    rw [readString]
    simp only [hn, hm, hhigh, hlow, if_true, hread]
    rfl

/-- An escape by number that is no half of a pair. -/
theorem unit {a b c d : Char} {n : Nat} (hn : hex4? a b c d = some n)
    (halone : isHighSurrogate n = true → ∀ a' b' c' d' tail m,
      w = '\\' :: 'u' :: a' :: b' :: c' :: d' :: tail → hex4? a' b' c' d' = some m →
        isLowSurrogate m = false) (h : Word w s) :
    Word ('\\' :: 'u' :: a :: b :: c :: d :: w) (unitChar n :: s) where
  feed := by
    have hdigits := ne_feed_of_hex4? hn
    simp only [List.mem_cons, List.not_mem_nil, or_false, not_or] at hdigits ⊢
    exact ⟨by decide, by decide, hdigits.1, hdigits.2.1, hdigits.2.2.1, hdigits.2.2.2, h.feed⟩
  read opening rest := by
    have hread := h.read opening rest
    have hself := h.read [] []
    rw [List.append_nil] at hself
    obtain ⟨e, w, rfl⟩ := h.exists_cons
    simp only [List.cons_append] at hread ⊢
    rw [readString]
    simp only [hn]
    split
    case h_2 => rw [hread]; rfl
    case h_1 a' b' c' d' e' tail heq =>
      split
      case isFalse => rw [← heq, hread]; rfl
      case isTrue hhigh =>
        -- The digits that follow are those of the word, which has a string to end behind them.
        cases w with
        | nil => rw [readString] at hself; cases hself
        | cons u w =>
            obtain ⟨rfl, htail⟩ := List.cons.inj heq
            obtain ⟨a'', b'', c'', d'', e'', more, m, rfl, hm⟩ := exists_hex4?_of_read hself
            cases htail
            have hlow := halone hhigh _ _ _ _ _ m rfl hm
            simp only [hm, hlow, Bool.false_eq_true, if_false]
            exact congrArg (push (unitChar n)) hread

end Word

theorem push_eq_ok {c : Char} {read : Except Stop (List Char × List Char)}
    (h : push c read = .ok (s, rest)) : ∃ s', read = .ok (s', rest) ∧ s = c :: s' := by
  obtain ⟨⟨s', rest'⟩, hread, heq⟩ := map_eq_ok h
  obtain ⟨rfl, rfl⟩ := Prod.mk.inj heq
  exact ⟨s', hread, rfl⟩

/-- **What is read of a string is a word.** -/
theorem readString_word {opening : List Char} (h : readString opening cs = .ok (s, rest)) :
    ∃ w, cs = w ++ rest ∧ Word w s := by
  induction cs using readString.induct generalizing s rest with
  | case1 | case3 => rw [readString] at h; cases h
  | case2 tail =>
      rw [readString] at h
      obtain ⟨rfl, rfl⟩ := Prod.mk.inj (Except.ok.inj h)
      exact ⟨['"'], rfl, .quote⟩
  | case4 a b c d e tail hn => simp [readString, hn] at h
  | case5 a b c d n hn a' b' c' d' e' tail hhigh hm => simp [readString, hn, hhigh, hm] at h
  | case6 a b c d n hn a' b' c' d' e' tail hhigh m hm hlow ih =>
      rw [readString] at h
      simp only [hn, hhigh, hm, hlow, if_true] at h
      obtain ⟨s', hread, rfl⟩ := push_eq_ok h
      obtain ⟨w, hw, hword⟩ := ih hread
      exact ⟨_, by rw [hw]; rfl, .pair hn hm hhigh hlow hword⟩
  | case7 a b c d n hn a' b' c' d' e' tail hhigh m hm hlow ih =>
      rw [readString] at h
      simp only [hn, hhigh, hm, hlow, if_true] at h
      obtain ⟨s', hread, rfl⟩ := push_eq_ok h
      obtain ⟨w, hw, hword⟩ := ih hread
      refine ⟨_, by rw [hw]; rfl, .unit hn (fun _ => ?_) hword⟩
      rintro _ _ _ _ more k rfl hk
      simp only [List.cons_append, List.cons.injEq, true_and] at hw
      obtain ⟨rfl, rfl, rfl, rfl, -⟩ := hw
      obtain rfl := Option.some.inj (hm.symm.trans hk)
      exact Bool.eq_false_iff.mpr hlow
  | case8 a b c d n hn a' b' c' d' e' tail hhigh ih =>
      rw [readString] at h
      simp only [hn, hhigh] at h
      obtain ⟨s', hread, rfl⟩ := push_eq_ok h
      obtain ⟨w, hw, hword⟩ := ih hread
      exact ⟨_, by rw [hw]; rfl, .unit hn (fun hhigh' => absurd hhigh' hhigh) hword⟩
  | case9 a b c d n hn e tail hnone ih =>
      rw [readString] at h
      simp only [hn] at h
      obtain ⟨s', hread, rfl⟩ := push_eq_ok h
      obtain ⟨w, hw, hword⟩ := ih hread
      refine ⟨_, by rw [hw]; rfl, .unit hn (fun _ => ?_) hword⟩
      rintro a' b' c' d' more k rfl -
      -- The string has to end behind the escape, which leaves a character to look at.
      have hself := hword.read [] []
      rw [List.append_nil] at hself
      obtain ⟨_, _, _, _, e', _, _, hmore, -⟩ := exists_hex4?_of_read hself
      simp only [List.cons.injEq] at hmore
      obtain ⟨-, -, -, -, rfl⟩ := hmore
      simp only [List.cons_append, List.cons.injEq] at hw
      exact (hnone _ _ _ _ _ _ hw.1 hw.2).elim
  | case10 tail hnone =>
      obtain ⟨a, b, c, d, e, more, n, rfl, -⟩ := exists_hex4?_of_read h
      exact (hnone _ _ _ _ _ _ rfl).elim
  | case11 c tail hnone hu x hx ih =>
      rw [readString_short hx] at h
      obtain ⟨s', hread, rfl⟩ := push_eq_ok h
      obtain ⟨w, hw, hword⟩ := ih hread
      exact ⟨_, by rw [hw]; rfl, .short hx hword⟩
  | case12 c tail hnone hu hx =>
      rw [readString] at h
      · simp [hx] at h
      all_goals simp_all
  | case13 c tail hquote hslash _ _ _ hcontrol =>
      rw [readString] at h
      · simp [hcontrol] at h
      all_goals simp_all
  | case14 c tail hquote hnil _ _ hslash hcontrol ih =>
      have hc : c ≠ '\\' := by
        rintro rfl
        cases tail with
        | nil => exact hnil rfl rfl
        | cons e more => exact hslash e more rfl rfl
      rw [readString_plain hquote hc hcontrol] at h
      obtain ⟨s', hread, rfl⟩ := push_eq_ok h
      obtain ⟨w, hw, hword⟩ := ih hread
      exact ⟨_, by rw [hw]; rfl, .plain hquote hc hcontrol hword⟩

/-! ### Literals and numbers -/

/-- The end of a line: the end of the text, or a line feed. -/
def LineEnd (t : List Char) : Prop := ∀ c ∈ t.head?, c = '\n'

variable {t : List Char}

theorem LineEnd.cases (h : LineEnd t) : t = [] ∨ ∃ u, t = '\n' :: u := by
  cases t with
  | nil => exact .inl rfl
  | cons c u => exact .inr ⟨u, by rw [h c rfl]⟩

/-- What was read in front of the end of a line. -/
def upTo (t : List Char) : Except Stop (Json × List Char) → Except Stop (Json × List Char)
  | .ok (v, rest) => .ok (v, rest ++ t)
  | .error ⟨fault, rest⟩ => .error ⟨fault, rest ++ t⟩

/-- The sign of an exponent, and what stands behind it. -/
def takeExponentSign (cs : List Char) : Bool × List Char :=
  match cs with
  | '-' :: body => (true, body)
  | '+' :: body => (false, body)
  | _ => (false, cs)

theorem scale_cons (c : Char) (cs : List Char) :
    scale (c :: cs) =
      if c = 'e' || c = 'E' then
        if ((takeExponentSign cs).2.takeWhile isDigit).isEmpty then (none, c :: cs)
        else
          let n : Int := digitsValue ((takeExponentSign cs).2.takeWhile isDigit)
          (some (if (takeExponentSign cs).1 then -n else n),
            (takeExponentSign cs).2.dropWhile isDigit)
      else (none, c :: cs) := rfl

/-- The words that are no numbers. -/
def literals : List (List Char) :=
  [['n', 'u', 'l', 'l'], ['t', 'r', 'u', 'e'], ['f', 'a', 'l', 's', 'e'], ['N', 'a', 'N'],
    ['I', 'n', 'f', 'i', 'n', 'i', 't', 'y'], ['-', 'I', 'n', 'f', 'i', 'n', 'i', 't', 'y']]

theorem notMem_literals : ∀ w ∈ literals, '\n' ∉ w := by decide

theorem readScalar_of_no_literal (h : ∀ w ∈ literals, ∀ tail, cs ≠ w ++ tail) :
    readScalar cs = readNumber cs := by
  rw [readScalar]
  case x_1 => exact h ['n', 'u', 'l', 'l'] (by decide)
  case x_2 => exact h ['t', 'r', 'u', 'e'] (by decide)
  case x_3 => exact h ['f', 'a', 'l', 's', 'e'] (by decide)
  case x_4 => exact h ['N', 'a', 'N'] (by decide)
  case x_5 => exact h ['I', 'n', 'f', 'i', 'n', 'i', 't', 'y'] (by decide)
  case x_6 => exact h ['-', 'I', 'n', 'f', 'i', 'n', 'i', 't', 'y'] (by decide)

section Lines

variable (ht : LineEnd t)

include ht

theorem takeWhile_append_lineEnd {p : Char → Bool} (hp : p '\n' = false) (cs : List Char) :
    (cs ++ t).takeWhile p = cs.takeWhile p := by
  induction cs with
  | nil => obtain rfl | ⟨u, rfl⟩ := ht.cases <;> simp [hp]
  | cons c cs ih => rw [List.cons_append, List.takeWhile_cons, List.takeWhile_cons, ih]

theorem dropWhile_append_lineEnd {p : Char → Bool} (hp : p '\n' = false) (cs : List Char) :
    (cs ++ t).dropWhile p = cs.dropWhile p ++ t := by
  induction cs with
  | nil => obtain rfl | ⟨u, rfl⟩ := ht.cases <;> simp [hp]
  | cons c cs ih =>
      rw [List.cons_append, List.dropWhile_cons, List.dropWhile_cons, ih]
      split <;> rfl

/-- A word in front of the end of a line is there without what follows the line. -/
theorem exists_append_of_lineEnd {w tail : List Char} (hw : '\n' ∉ w) (h : cs ++ t = w ++ tail) :
    ∃ rest, cs = w ++ rest := by
  obtain ⟨more, rfl, rfl⟩ | ⟨rest, rfl, -⟩ := List.append_eq_append_iff.mp h
  · cases more with
    | nil => exact ⟨[], by simp⟩
    | cons c more => exact absurd (List.mem_append_right _ (ht c rfl ▸ List.mem_cons_self)) hw
  · exact ⟨rest, rfl⟩

theorem ne_cons_append {c : Char} (hc : c ≠ '\n') (h : ∀ tail, cs ≠ c :: tail) (tail : List Char) :
    cs ++ t ≠ c :: tail := by
  intro heq
  obtain ⟨rest, rfl⟩ := exists_append_of_lineEnd ht (w := [c]) (by simpa using hc.symm) heq
  exact h rest rfl

theorem wholePart?_upTo (cs : List Char) :
    wholePart? (cs ++ t) = (wholePart? cs).map fun read => (read.1, read.2 ++ t) := by
  have hfeed : isDigit '\n' = false := by decide
  have hother {cs : List Char} (h : ∀ tail, cs ≠ '0' :: tail) : wholePart? cs =
      if (cs.takeWhile isDigit).isEmpty then none
      else some (cs.takeWhile isDigit, cs.dropWhile isDigit) := by
    rw [wholePart?]
    exact h
  by_cases hzero : ∃ tail, cs = '0' :: tail
  · obtain ⟨tail, rfl⟩ := hzero
    rfl
  · have hcs : ∀ tail, cs ≠ '0' :: tail := fun tail heq => hzero ⟨tail, heq⟩
    rw [hother (ne_cons_append ht (by decide) hcs), hother hcs,
      takeWhile_append_lineEnd ht hfeed, dropWhile_append_lineEnd ht hfeed]
    split <;> rfl

theorem fraction_upTo (cs : List Char) :
    fraction (cs ++ t) = ((fraction cs).1, (fraction cs).2 ++ t) := by
  have hfeed : isDigit '\n' = false := by decide
  have hother {cs : List Char} (h : ∀ tail, cs ≠ '.' :: tail) : fraction cs = ([], cs) := by
    rw [fraction]
    exact h
  by_cases hpoint : ∃ tail, cs = '.' :: tail
  · obtain ⟨tail, rfl⟩ := hpoint
    rw [List.cons_append, fraction, fraction, takeWhile_append_lineEnd ht hfeed,
      dropWhile_append_lineEnd ht hfeed]
    split <;> rfl
  · have hcs : ∀ tail, cs ≠ '.' :: tail := fun tail heq => hpoint ⟨tail, heq⟩
    rw [hother (ne_cons_append ht (by decide) hcs), hother hcs]

theorem takeExponentSign_upTo (cs : List Char) :
    takeExponentSign (cs ++ t) = ((takeExponentSign cs).1, (takeExponentSign cs).2 ++ t) := by
  cases cs with
  | nil => obtain rfl | ⟨u, rfl⟩ := ht.cases <;> rfl
  | cons c cs =>
      by_cases hminus : c = '-'
      · subst hminus
        rfl
      · by_cases hplus : c = '+'
        · subst hplus
          rfl
        · simp [takeExponentSign, hminus, hplus]

theorem scale_upTo (cs : List Char) : scale (cs ++ t) = ((scale cs).1, (scale cs).2 ++ t) := by
  cases cs with
  | nil => obtain rfl | ⟨u, rfl⟩ := ht.cases <;> rfl
  | cons c cs =>
      rw [List.cons_append, scale_cons, scale_cons, takeExponentSign_upTo ht,
        takeWhile_append_lineEnd ht (by decide), dropWhile_append_lineEnd ht (by decide)]
      split
      · split <;> rfl
      · rfl

theorem readNumber_upTo (cs : List Char) : readNumber (cs ++ t) = upTo t (readNumber cs) := by
  have hsign : takeSign (cs ++ t) = ((takeSign cs).1, (takeSign cs).2 ++ t) := by
    cases cs with
    | nil => obtain rfl | ⟨u, rfl⟩ := ht.cases <;> rfl
    | cons c cs =>
        by_cases hminus : c = '-'
        · subst hminus
          rfl
        · simp [takeSign, hminus]
  rw [readNumber_eq, readNumber_eq, hsign]
  simp only [readMagnitude, wholePart?_upTo ht]
  cases wholePart? (takeSign cs).2 with
  | none => rfl
  | some read =>
      simp only [Option.map_some, fraction_upTo ht, scale_upTo ht]
      split
      · split <;> rfl
      · rfl

theorem readScalar_upTo (cs : List Char) : readScalar (cs ++ t) = upTo t (readScalar cs) := by
  by_cases hliteral : ∃ w ∈ literals, ∃ tail, cs = w ++ tail
  · obtain ⟨w, hw, tail, rfl⟩ := hliteral
    simp only [literals, List.mem_cons, List.not_mem_nil, or_false] at hw
    rcases hw with rfl | rfl | rfl | rfl | rfl | rfl <;> rfl
  · have hcs : ∀ w ∈ literals, ∀ tail, cs ≠ w ++ tail :=
      fun w hw tail heq => hliteral ⟨w, hw, tail, heq⟩
    have hcst : ∀ w ∈ literals, ∀ tail, cs ++ t ≠ w ++ tail := by
      intro w hw tail heq
      obtain ⟨rest, hrest⟩ := exists_append_of_lineEnd ht (notMem_literals w hw) heq
      exact hcs w hw rest hrest
    rw [readScalar_of_no_literal hcst, readScalar_of_no_literal hcs, readNumber_upTo ht]

end Lines

/-! ### What is taken for a literal or a number -/

theorem wholePart?_eq_some {ds : List Char} (h : wholePart? cs = some (ds, rest)) :
    ds ≠ [] ∧ cs = ds ++ rest := by
  refine ⟨List.ne_nil_of_length_pos (wholePart?_digits h).1, ?_⟩
  unfold wholePart? at h
  split at h
  case h_1 =>
    obtain ⟨rfl, rfl⟩ := Prod.mk.inj (Option.some.inj h)
    rfl
  case h_2 =>
    simp only [Option.ite_none_left_eq_some, Option.some.injEq, Prod.mk.injEq] at h
    obtain ⟨-, rfl, rfl⟩ := h
    exact List.takeWhile_append_dropWhile.symm

theorem fraction_suffix (cs : List Char) : (fraction cs).2 <:+ cs := by
  unfold fraction
  split
  case h_1 tail =>
    dsimp only
    split
    · exact List.suffix_refl _
    · exact (List.dropWhile_suffix _).trans (List.suffix_cons _ _)
  case h_2 => exact List.suffix_refl cs

theorem takeExponentSign_suffix (cs : List Char) : (takeExponentSign cs).2 <:+ cs := by
  unfold takeExponentSign
  split
  · exact List.suffix_cons _ _
  · exact List.suffix_cons _ _
  · exact List.suffix_refl cs

theorem scale_suffix (cs : List Char) : (scale cs).2 <:+ cs := by
  cases cs with
  | nil => exact List.suffix_refl []
  | cons c cs =>
      rw [scale_cons]
      split
      case isFalse => exact List.suffix_refl _
      case isTrue =>
        split
        · exact List.suffix_refl _
        · exact ((List.dropWhile_suffix _).trans (takeExponentSign_suffix cs)).trans
            (List.suffix_cons c cs)

theorem takeSign_suffix (cs : List Char) : (takeSign cs).2 <:+ cs := by
  unfold takeSign
  split
  · exact List.suffix_cons _ _
  · exact List.suffix_refl cs

theorem readNumber_suffix {v : Json} (h : readNumber cs = .ok (v, rest)) :
    ∃ w, w ≠ [] ∧ cs = w ++ rest := by
  rw [readNumber_eq, readMagnitude] at h
  split at h
  case h_1 => cases h
  case h_2 whole behind hwhole =>
    obtain ⟨hne, hbody⟩ := wholePart?_eq_some hwhole
    have hrest : rest = (scale (fraction behind).2).2 := by
      dsimp only at h
      split at h
      · split at h
        · exact (Prod.mk.inj (Except.ok.inj h)).2.symm
        · cases h
      · exact (Prod.mk.inj (Except.ok.inj h)).2.symm
    obtain ⟨sign, hsign⟩ := takeSign_suffix cs
    obtain ⟨w, hw⟩ := (scale_suffix (fraction behind).2).trans (fraction_suffix behind)
    refine ⟨sign ++ whole ++ w, by simp [hne], ?_⟩
    rw [hrest, List.append_assoc, List.append_assoc, hw, ← hbody, hsign]

theorem readScalar_suffix {v : Json} (h : readScalar cs = .ok (v, rest)) :
    ∃ w, w ≠ [] ∧ cs = w ++ rest := by
  by_cases hliteral : ∃ w ∈ literals, ∃ tail, cs = w ++ tail
  · obtain ⟨w, hw, tail, rfl⟩ := hliteral
    have hnil : w ≠ [] := by
      rintro rfl
      exact absurd hw (by decide)
    have hrest : rest = tail := by
      simp only [literals, List.mem_cons, List.not_mem_nil, or_false] at hw
      rcases hw with rfl | rfl | rfl | rfl | rfl | rfl <;>
        exact (Prod.mk.inj (Except.ok.inj h)).2.symm
    exact ⟨w, hnil, by rw [hrest]⟩
  · rw [readScalar_of_no_literal fun w hw tail heq => hliteral ⟨w, hw, tail, heq⟩] at h
    exact readNumber_suffix h

/-- A literal or a number, which is read the same in every line that goes on with `behind`. -/
structure Scalar (w behind : List Char) (v : Json) : Prop where
  nonempty : w ≠ []
  feed : '\n' ∉ w ++ behind
  read : ∀ t, LineEnd t → readScalar (w ++ behind ++ t) = .ok (v, behind ++ t)

/-- **What is read of a literal or a number** hangs on its line alone. -/
theorem readScalar_scalar {v : Json} (h : readScalar cs = .ok (v, rest)) :
    ∃ w behind t, cs = w ++ behind ++ t ∧ rest = behind ++ t ∧ LineEnd t ∧ Scalar w behind v := by
  have hline := List.takeWhile_append_dropWhile (p := (· ≠ '\n')) (l := cs)
  have hfeed : '\n' ∉ cs.takeWhile (· ≠ '\n') := fun hmem => by
    simpa using List.mem_takeWhile_imp hmem
  have ht : LineEnd (cs.dropWhile (· ≠ '\n')) := fun c hc => by
    have hhead := List.head?_dropWhile_not (· ≠ '\n') cs
    rw [Option.mem_def.mp hc] at hhead
    simpa using hhead
  generalize cs.takeWhile (· ≠ '\n') = line at hline hfeed
  generalize cs.dropWhile (· ≠ '\n') = t at hline ht
  subst hline
  rw [readScalar_upTo ht] at h
  cases hread : readScalar line with
  | error stop => rw [hread] at h; cases h
  | ok read =>
      obtain ⟨w', behind⟩ := read
      rw [hread] at h
      obtain ⟨rfl, rfl⟩ := Prod.mk.inj (Except.ok.inj h)
      obtain ⟨w, hw, rfl⟩ := readScalar_suffix hread
      refine ⟨w, behind, t, rfl, rfl, ht, hw, hfeed, fun u hu => ?_⟩
      rw [readScalar_upTo hu, hread]
      rfl

end Questionnaire.Json
