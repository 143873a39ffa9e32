/-
No comment is found in a text that gives a value.

A comment has to start a line.  In a text that gives a value a line feed stands between
tokens only, for inside a string it would be a fault, and no token starts with a slash.  So
`strip` leaves such a text as it is, whatever slashes and stars stand inside its strings.
-/
import Questionnaire.Document.Comment
import Questionnaire.Proofs.Json.Grammar

namespace Questionnaire.Document.Comment

open Json (Reads Part skipSpace isSpace)

/-- A character that is no blank and that starts no comment. -/
def Seen (c : Char) : Prop := Text.isBlank c = false ∧ c ≠ '/'

/-- What stands behind the blanks between tokens, if anything does, is seen. -/
def Visible (cs : List Char) : Prop := ∀ c ∈ (skipSpace cs).head?, Seen c

/-- No line but the first can start with a comment. -/
def Quiet : List Char → Prop
  | [] => True
  | c :: cs => (c = '\n' → Visible cs) ∧ Quiet cs

variable {cs rest : List Char} {c : Char}

theorem isBlank_of_isSpace (h : isSpace c = true) : Text.isBlank c = true := by
  simp only [isSpace, Bool.or_eq_true, decide_eq_true_eq] at h
  obtain ((rfl | rfl) | rfl) | rfl := h <;> decide

/-! ### What quiet text comes to -/

/-- The blanks in front of what is seen are all blanks between tokens. -/
theorem dropWhile_of_visible (h : Visible cs) : cs.dropWhile Text.isBlank = skipSpace cs := by
  induction cs with
  | nil => rfl
  | cons c cs ih =>
      by_cases hspace : isSpace c = true
      · rw [Visible, skipSpace, List.dropWhile_cons_of_pos hspace] at h
        rw [skipSpace, List.dropWhile_cons_of_pos hspace,
          List.dropWhile_cons_of_pos (isBlank_of_isSpace hspace)]
        exact ih h
      · have hskip : skipSpace (c :: cs) = c :: cs :=
          Json.skipSpace_cons (Bool.eq_false_iff.mpr hspace)
        rw [Visible, hskip] at h
        rw [hskip, List.dropWhile_cons_of_neg (by simp [(h c rfl).1])]

theorem blockLength_of_visible (h : Visible cs) : blockLength cs = 0 := by
  unfold blockLength
  dsimp only
  split
  case h_1 body heq =>
    rw [dropWhile_of_visible h] at heq
    exact absurd rfl (h '/' (by rw [heq]; rfl)).2
  case h_2 => rfl

theorem lineLength_of_visible (h : Visible cs) : lineLength cs = 0 := by
  unfold lineLength
  dsimp only
  split
  case h_1 body heq =>
    rw [dropWhile_of_visible h] at heq
    exact absurd rfl (h '/' (by rw [heq]; rfl)).2
  case h_2 => rfl

/-- A quiet text loses nothing to comments that start with a slash. -/
theorem erase_of_quiet {length : List Char → Nat} (hlength : ∀ cs, Visible cs → length cs = 0)
    (lineStart : Bool) (hstart : lineStart = true → Visible cs) (hquiet : Quiet cs) :
    erase length 0 lineStart cs = cs := by
  induction cs generalizing lineStart with
  | nil => rfl
  | cons c cs ih =>
      have hnone : (if lineStart then length (c :: cs) else 0) = 0 := by
        cases lineStart with
        | true => exact hlength _ (hstart rfl)
        | false => rfl
      have hrest := ih (c == '\n') (fun hnew => hquiet.1 (beq_iff_eq.mp hnew)) hquiet.2
      rw [erase, hnone]
      simp only [hrest]

/-- A text in which no line starts with a slash holds no comment. -/
theorem strip_of_quiet (hvisible : Visible cs) (hquiet : Quiet cs) : strip cs = cs := by
  rw [strip, erase_of_quiet (fun _ => blockLength_of_visible) true (fun _ => hvisible) hquiet,
    erase_of_quiet (fun _ => lineLength_of_visible) true (fun _ => hvisible) hquiet]

/-! ### Texts that give values -/

/-- A piece without line feeds is quiet if what follows is. -/
theorem quiet_append {cs : List Char} (hfeed : '\n' ∉ cs) (h : Quiet rest) :
    Quiet (cs ++ rest) := by
  induction cs with
  | nil => exact h
  | cons c cs ih =>
      rw [List.mem_cons, not_or] at hfeed
      exact ⟨fun hc => absurd hc.symm hfeed.1, ih hfeed.2⟩

/-- Blanks in front of what is seen are quiet, with the lines that they start. -/
theorem quiet_of_skipSpace (hvisible : Visible cs) (h : Quiet (skipSpace cs)) : Quiet cs := by
  induction cs with
  | nil => trivial
  | cons c cs ih =>
      by_cases hspace : isSpace c = true
      · rw [Visible, skipSpace, List.dropWhile_cons_of_pos hspace] at hvisible
        rw [skipSpace, List.dropWhile_cons_of_pos hspace] at h
        exact ⟨fun _ => hvisible, ih hvisible h⟩
      · rw [Json.skipSpace_cons (Bool.eq_false_iff.mpr hspace)] at h
        exact h

theorem quiet_of_seen (h : skipSpace cs = c :: rest) (hc : Seen c) (hrest : Quiet rest) :
    Quiet cs := by
  refine quiet_of_skipSpace (fun d hd => ?_) ?_
  · rw [h] at hd
    exact Option.some.inj hd ▸ hc
  · rw [h]
    exact ⟨fun hfeed => absurd hfeed (Json.ne_feed_of_skipSpace h), hrest⟩

theorem isBlank_of_isDigit (h : Json.isDigit c = true) : Text.isBlank c = false := by
  simp only [Json.isDigit, Bool.and_eq_true, decide_eq_true_eq, Char.le_def, UInt32.le_iff_toNat_le]
    at h
  have htoNat : c.toNat = c.val.toNat := rfl
  have hzero : '0'.val.toNat = 48 := rfl
  have hnine : '9'.val.toNat = 57 := rfl
  simp only [Text.isBlank, Text.isSeparator, Bool.or_eq_false_iff, Bool.and_eq_false_iff,
    decide_eq_false_iff_not, beq_eq_false_iff_ne]
  omega

/-- What can begin a value is seen. -/
theorem seen_of_beginsValue (h : Json.beginsValue c = true) : Seen c := by
  simp only [Json.beginsValue, Json.beginsScalar, Bool.or_eq_true, List.contains_iff_mem] at h
  have hslash : c ≠ '/' := by
    rintro rfl
    exact absurd h (by decide)
  refine ⟨?_, hslash⟩
  obtain (hdigit | hletter) | hbracket := h
  · exact isBlank_of_isDigit hdigit
  · simp only [List.mem_cons, List.not_mem_nil, or_false] at hletter
    obtain rfl | rfl | rfl | rfl | rfl | rfl := hletter <;> rfl
  · simp only [List.mem_cons, List.not_mem_nil, or_false] at hbracket
    obtain rfl | rfl | rfl := hbracket <;> rfl

/-- What is read begins with a character that is seen. -/
theorem visible_of_reads {part : Part} (h : Reads part (skipSpace cs) rest) : Visible cs := by
  obtain ⟨c, tail, hfront, hc⟩ := h.front
  intro d hd
  rw [hfront] at hd
  obtain rfl := Option.some.inj hd
  cases part with
  | value | items => exact seen_of_beginsValue hc
  | members => exact hc ▸ seen_of_beginsValue rfl

/-- What is read is quiet if what follows is. -/
theorem quiet_of_reads {part : Part} (h : Reads part cs rest) (hrest : Quiet rest) : Quiet cs := by
  have htoken : ∀ c ∈ [']', '}', ',', ':'], Seen c := by
    simp [Seen, Text.isBlank, Text.isSeparator]
  induction h with
  | @scalar w behind t v ht hw =>
      rw [List.append_assoc]
      exact quiet_append (fun hmem => hw.feed (List.mem_append_left behind hmem)) hrest
  | text hw => exact ⟨by simp, quiet_append hw.feed hrest⟩
  | noItems hclose | noMembers hclose =>
      exact ⟨by simp, quiet_of_seen hclose (htoken _ (by simp)) hrest⟩
  | list h ih | object h ih =>
      exact ⟨by simp, quiet_of_skipSpace (visible_of_reads h) (ih hrest)⟩
  | last _ hclose ih => exact ih (quiet_of_seen hclose (htoken _ (by simp)) hrest)
  | next _ hcomma hvs ihv ihvs =>
      have hmore := quiet_of_skipSpace (visible_of_reads hvs) (ihvs hrest)
      exact ihv (quiet_of_seen hcomma (htoken _ (by simp)) hmore)
  | lastMember hw hcolon hv hclose ih =>
      have hbehind := quiet_of_seen hclose (htoken _ (by simp)) hrest
      have hmore := quiet_of_skipSpace (visible_of_reads hv) (ih hbehind)
      exact ⟨by simp, quiet_append hw.feed (quiet_of_seen hcolon (htoken _ (by simp)) hmore)⟩
  | nextMember hw hcolon hv hcomma hms ihv ihms =>
      have hothers := quiet_of_skipSpace (visible_of_reads hms) (ihms hrest)
      have hbehind := quiet_of_seen hcomma (htoken _ (by simp)) hothers
      have hmore := quiet_of_skipSpace (visible_of_reads hv) (ihv hbehind)
      exact ⟨by simp, quiet_append hw.feed (quiet_of_seen hcolon (htoken _ (by simp)) hmore)⟩

/-- No line of a text that gives a value starts with a comment. -/
theorem quiet_of_parse {text : String} {v : Json} (h : Json.parse text = .ok v) :
    Visible text.toList ∧ Quiet text.toList := by
  obtain ⟨rest, hreads, hrest⟩ := Json.parseChars_eq_ok.mp (Json.parse_eq_ok.mp h)
  have hend : Quiet rest := by
    refine quiet_of_skipSpace (fun c hc => ?_) ?_
    · rw [hrest] at hc
      cases hc
    · rw [hrest]
      trivial
  have hvisible := visible_of_reads hreads
  exact ⟨hvisible, quiet_of_skipSpace hvisible (quiet_of_reads hreads hend)⟩

/-- **No comment is found in a text that gives a value**: it is left as it is. -/
theorem strip_of_parse {text : String} {v : Json} (h : Json.parse text = .ok v) :
    strip text.toList = text.toList :=
  strip_of_quiet (quiet_of_parse h).1 (quiet_of_parse h).2

end Questionnaire.Document.Comment
