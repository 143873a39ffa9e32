/-
Comments are invisible.

Whole comments may be put in front of any line of a text and behind the last one: lines of
their own, and blocks that start a line and end one.  If the text gives a value, then with
the comments it gives the same document, or is refused for the same reason.

`Littered` relates a text to the same text with comments of given kinds in it.  One pass of
`erase` takes out one kind and leaves the others, `Pass.littered`, so that the two passes
leave a text that is blank in other places, which is read the same.  It is the place of a
comment that matters and not what stands in it: a pass looks for a comment at the start of
a line only, and there nothing but blanks, a comment or a token can stand.

Behind the end of a block only the blanks that may stand between tokens are invisible.  A
wider blank stays in the text, `ofText_wideBlank`.
-/
import Questionnaire.Document.Reader
import Questionnaire.Proofs.Document.Comment

namespace Questionnaire.Document

namespace Comment

open Json (Reads Respaced LineEnd skipSpace isSpace)

variable {cs ds rest p w : List Char} {c : Char} {lineStart : Bool}

/-! ### Whole comments -/

/-- A comment to the end of its line, with blanks in front. -/
inductive Line : List Char → Prop
  | mk {blanks body : List Char} (hblanks : ∀ c ∈ blanks, Text.isBlank c = true)
      (hbody : '\n' ∉ body) : Line (blanks ++ '/' :: '/' :: body)

/-- A block with blanks in front, and with blanks of a kind behind it to the end of its
last line. -/
inductive Block (behind : Char → Bool) : List Char → Prop
  | mk {blanks body tail : List Char} (hblanks : ∀ c ∈ blanks, Text.isBlank c = true)
      (hbody : ¬['*', '/'] <:+: body) (htail : ∀ c ∈ tail, behind c = true) (hfeed : '\n' ∉ tail) :
      Block behind (blanks ++ '/' :: '*' :: (body ++ '*' :: '/' :: tail))

/-- The pieces are the lines with comments between them. -/
inductive Commented (behind : Char → Bool) : List (List Char) → List (List Char) → Prop
  | nil : Commented behind [] []
  | line {lines pieces : List (List Char)} (l : List Char) (h : Commented behind lines pieces) :
      Commented behind (l :: lines) (l :: pieces)
  | comment {w : List Char} {lines pieces : List (List Char)} (hw : Line w ∨ Block behind w)
      (h : Commented behind lines pieces) : Commented behind lines (w :: pieces)

/-! ### Text with litter -/

/-- A text, and the same text with blanks and comments of a kind behind its line feeds.  At
the start of a line, the blanks are left out of the plain text. -/
inductive Littered (kind : List Char → Prop) : Bool → List Char → List Char → Prop
  | nil : Littered kind false [] []
  | char {c : Char} {cs ds : List Char} (hc : c ≠ '\n') (h : Littered kind false cs ds) :
      Littered kind false (c :: cs) (c :: ds)
  | feed {cs ds : List Char} (h : Littered kind true (skipSpace cs) ds) :
      Littered kind false ('\n' :: cs) ('\n' :: ds)
  | last {ds : List Char} (h : Littered kind true [] ds) : Littered kind false [] ('\n' :: ds)
  | done : Littered kind true [] []
  | seen {c : Char} {cs ds : List Char} (hc : Seen c) (h : Littered kind false cs ds) :
      Littered kind true (c :: cs) (c :: ds)
  | space {c : Char} {cs ds : List Char} (hc : isSpace c = true) (h : Littered kind true cs ds) :
      Littered kind true cs (c :: ds)
  | comment {w cs ds : List Char} (hw : kind w) (h : Littered kind true cs ds) :
      Littered kind true cs (w ++ '\n' :: ds)
  | lastComment {w : List Char} (hw : kind w) : Littered kind true [] w

theorem ne_feed_of_seen (h : Seen c) : c ≠ '\n' := by
  rintro rfl
  exact absurd h.1 (by decide)

theorem isSpace_of_seen (h : Seen c) : isSpace c = false := by
  refine Bool.eq_false_iff.mpr fun hspace => ?_
  rw [Seen, isBlank_of_isSpace hspace] at h
  exact absurd h.1 (by decide)

namespace Littered

variable {kind : List Char → Prop}

theorem spaces {s : List Char} (hs : ∀ c ∈ s, isSpace c = true) (h : Littered kind true cs ds) :
    Littered kind true cs (s ++ ds) := by
  induction s with
  | nil => exact h
  | cons c s ih =>
      rw [List.forall_mem_cons] at hs
      exact .space hs.1 (ih hs.2)

theorem append {l : List Char} (hl : '\n' ∉ l) (h : Littered kind false cs ds) :
    Littered kind false (l ++ cs) (l ++ ds) := by
  induction l with
  | nil => exact h
  | cons c l ih =>
      rw [List.mem_cons, not_or] at hl
      exact .char (Ne.symm hl.1) (ih hl.2)

/-- What goes on in a line can start one, if what it begins with is seen. -/
theorem start (h : Littered kind false cs ds) (hvisible : Visible cs) :
    Littered kind true (skipSpace cs) ds := by
  generalize hline : false = lineStart at h
  induction h with
  | nil => exact .done
  | @char c cs ds hc h ih =>
      by_cases hspace : isSpace c = true
      · rw [Visible, skipSpace, List.dropWhile_cons_of_pos hspace] at hvisible
        rw [skipSpace, List.dropWhile_cons_of_pos hspace]
        exact .space hspace (ih hvisible hline)
      · rw [Visible, Json.skipSpace_cons (Bool.eq_false_iff.mpr hspace)] at hvisible
        rw [Json.skipSpace_cons (Bool.eq_false_iff.mpr hspace)]
        exact .seen (hvisible c rfl) h
  | feed h => exact .space rfl h
  | last h => exact .space rfl h
  | _ => cases hline

/-- Without comments, the litter is blanks. -/
theorem respaced (h : Littered kind lineStart cs ds) (hkind : ∀ w, ¬kind w) :
    Respaced cs (if lineStart then skipSpace ds else ds) := by
  induction h with
  | nil | done => exact .nil
  | char hc _ ih => exact .char hc ih
  | feed _ ih => exact .feed ih
  | last _ ih => exact .last ih
  | seen hc h ih =>
      rw [if_pos rfl, Json.skipSpace_cons (isSpace_of_seen hc)]
      exact .char (ne_feed_of_seen hc) ih
  | space hc _ ih =>
      rw [if_pos rfl, skipSpace, List.dropWhile_cons_of_pos hc]
      exact ih
  | comment hw => exact absurd hw (hkind _)
  | lastComment hw => exact absurd hw (hkind _)

end Littered

/-! ### One pass -/

/-- A pass takes out comments of one kind, down to blanks behind them, with the blanks in
front; it leaves comments of another kind as they are, and what is seen. -/
structure Pass (length : List Char → Nat) (removed kept : List Char → Prop) : Prop where
  removes : ∀ {w}, removed w → ∃ s, (∀ c ∈ s, isSpace c = true) ∧
    ∀ p t, (∀ c ∈ p, isSpace c = true) → LineEnd t →
      erase length 0 true (p ++ (w ++ t)) = s ++ erase length 0 false t
  keeps : ∀ {w}, kept w → ∀ p t, (∀ c ∈ p, isSpace c = true) →
    erase length 0 true (p ++ (w ++ t)) = p ++ (w ++ erase length 0 false t)
  visible : ∀ {cs}, Visible cs → length cs = 0

variable {length : List Char → Nat} {removed kept : List Char → Prop}

theorem erase_false_cons (length : List Char → Nat) (c : Char) (cs : List Char) :
    erase length 0 false (c :: cs) = c :: erase length 0 (c == '\n') cs := rfl

/-- A character stays, with the blanks in front, where neither it nor they start a comment. -/
theorem erase_shown {blank : Char → Bool}
    (hzero : ∀ q, (∀ c ∈ q, blank c = true) → length (q ++ c :: cs) = 0)
    (hc : c ≠ '\n') (hp : ∀ c ∈ p, blank c = true) (lineStart : Bool) :
    erase length 0 lineStart (p ++ c :: cs) = p ++ c :: erase length 0 false cs := by
  have hnone {q : List Char} (hq : ∀ c ∈ q, blank c = true) (lineStart : Bool) :
      (if lineStart then length (q ++ c :: cs) else 0) = 0 := by
    rw [hzero q hq, ite_self]
  induction p generalizing lineStart with
  | nil =>
      have hkeep := hnone hp lineStart
      rw [List.nil_append] at hkeep
      rw [List.nil_append, List.nil_append, erase, hkeep, beq_eq_false_iff_ne.mpr hc]
  | cons d p ih =>
      have hkeep := hnone hp lineStart
      rw [List.cons_append] at hkeep
      rw [List.cons_append, List.cons_append, erase, hkeep]
      simp only [ih fun x hx => hp x (List.mem_cons_of_mem d hx)]

/-- Behind the start of a line nothing goes. -/
theorem erase_line {l : List Char} (hl : '\n' ∉ l) (rest : List Char) :
    erase length 0 false (l ++ rest) = l ++ erase length 0 false rest := by
  induction l with
  | nil => rfl
  | cons c l ih =>
      rw [List.mem_cons, not_or] at hl
      rw [List.cons_append, erase_false_cons, beq_eq_false_iff_ne.mpr (Ne.symm hl.1), ih hl.2,
        List.cons_append]

theorem erase_skip (l : List Char) (hc : c ≠ '\n') (lineStart : Bool) :
    erase length (l.length + 1) lineStart (l ++ c :: rest) = erase length 0 false rest := by
  induction l generalizing lineStart with
  | nil =>
      show erase length 0 (c == '\n') rest = _
      rw [beq_eq_false_iff_ne.mpr hc]
  | cons d l ih => exact ih (d == '\n')

/-- A comment at the start of a line goes. -/
theorem erase_comment (l : List Char) (hc : c ≠ '\n')
    (hlength : length (l ++ c :: rest) = l.length + 1) :
    erase length 0 true (l ++ c :: rest) = erase length 0 false rest := by
  cases l with
  | nil =>
      rw [List.nil_append] at hlength ⊢
      rw [erase, if_pos rfl, hlength]
      exact erase_skip [] hc true
  | cons d l =>
      rw [List.cons_append] at hlength ⊢
      rw [erase, if_pos rfl, hlength]
      exact erase_skip l hc (d == '\n')

namespace Pass

theorem seen (pass : Pass length removed kept) (hc : Seen c) (hp : ∀ c ∈ p, isSpace c = true) :
    erase length 0 true (p ++ c :: cs) = p ++ c :: erase length 0 false cs := by
  refine erase_shown (fun q hq => pass.visible fun d hd => ?_) (ne_feed_of_seen hc) hp true
  rw [Json.skipSpace_blanks_cons hq (isSpace_of_seen hc)] at hd
  exact Option.some.inj hd ▸ hc

theorem blank (pass : Pass length removed kept) (hp : ∀ c ∈ p, isSpace c = true) :
    erase length 0 true p = p := by
  have hskip : skipSpace p = [] := List.dropWhile_eq_nil_iff.mpr hp
  have hvisible : Visible p := by
    rw [Visible, hskip]
    simp
  have hquiet : Quiet p := quiet_of_skipSpace hvisible (by rw [hskip]; trivial)
  exact erase_of_quiet (fun _ => pass.visible) true (fun _ => hvisible) hquiet

/-- **A pass takes the one kind out of the litter and leaves the other.**  Blanks that the
pass has not got past, `p`, go with the next comment that it takes out. -/
theorem littered (pass : Pass length removed kept) {kind : List Char → Prop}
    (hkind : ∀ {w}, kind w → removed w ∨ kept w) (h : Littered kind lineStart cs ds)
    (hp : ∀ c ∈ p, isSpace c = true) (hline : lineStart = false → p = []) :
    Littered kept lineStart cs (erase length 0 lineStart (p ++ ds)) := by
  have hnil : ∀ c ∈ ([] : List Char), isSpace c = true := by simp
  induction h generalizing p with
  | nil =>
      rw [hline rfl]
      exact .nil
  | char hc _ ih =>
      have hrest := ih hnil (fun _ => rfl)
      rw [hline rfl, List.nil_append, erase_false_cons, beq_eq_false_iff_ne.mpr hc]
      exact .char hc hrest
  | feed _ ih =>
      have hrest := ih hnil (fun h => by cases h)
      rw [hline rfl, List.nil_append, erase_false_cons]
      exact .feed hrest
  | last _ ih =>
      have hrest := ih hnil (fun h => by cases h)
      rw [hline rfl, List.nil_append, erase_false_cons]
      exact .last hrest
  | done =>
      rw [List.append_nil, pass.blank hp, ← List.append_nil p]
      exact .spaces hp .done
  | seen hc _ ih =>
      rw [pass.seen hc hp]
      exact .spaces hp (.seen hc (ih hnil fun _ => rfl))
  | @space c cs ds hc _ ih =>
      have hp' : ∀ x ∈ p ++ [c], isSpace x = true := by
        rintro x hx
        rcases List.mem_append.mp hx with hx | hx
        · exact hp x hx
        · exact List.mem_singleton.mp hx ▸ hc
      have hrest := ih hp' (fun h => by cases h)
      rw [List.append_assoc] at hrest
      exact hrest
  | @comment w cs ds hw _ ih =>
      have hrest := ih hnil (fun h => by cases h)
      rcases hkind hw with hw | hw
      · obtain ⟨s, hs, herase⟩ := pass.removes hw
        rw [herase p _ hp (by simp [LineEnd]), erase_false_cons]
        exact .spaces hs (.space rfl hrest)
      · rw [pass.keeps hw p _ hp, erase_false_cons]
        exact .spaces hp (.comment hw hrest)
  | @lastComment w hw =>
      rcases hkind hw with hw | hw
      · obtain ⟨s, hs, herase⟩ := pass.removes hw
        rw [← List.append_nil w, herase p _ hp (by simp [LineEnd])]
        exact .spaces hs .done
      · rw [← List.append_nil w, pass.keeps hw p _ hp]
        refine .spaces hp ?_
        rw [erase, List.append_nil]
        exact .lastComment hw

end Pass

/-! ### The passes over blocks and over lines -/

variable {blanks body : List Char}

theorem toBlockEnd?_append (hbody : ¬['*', '/'] <:+: body) (rest : List Char) :
    toBlockEnd? (body ++ '*' :: '/' :: rest) = some (body.length + 2) := by
  induction body with
  | nil => rfl
  | cons c body ih =>
      have htail : ¬['*', '/'] <:+: body :=
        fun h => hbody (h.trans (List.suffix_cons c body).isInfix)
      rw [List.cons_append, toBlockEnd?, ih htail]
      · rfl
      · rintro more rfl heq
        cases body with
        | nil => cases heq
        | cons d body =>
            obtain ⟨rfl, -⟩ := List.cons.inj heq
            exact hbody ⟨[], body, rfl⟩

theorem takeWhile_blanks (hblanks : ∀ c ∈ blanks, Text.isBlank c = true) (rest : List Char) :
    (blanks ++ '/' :: rest).takeWhile Text.isBlank = blanks := by
  rw [List.takeWhile_append_of_pos hblanks, List.takeWhile_cons_of_neg (by decide),
    List.append_nil]

theorem dropWhile_blanks (hblanks : ∀ c ∈ blanks, Text.isBlank c = true) (rest : List Char) :
    (blanks ++ '/' :: rest).dropWhile Text.isBlank = '/' :: rest := by
  rw [List.dropWhile_append_of_pos hblanks, List.dropWhile_cons_of_neg (by decide)]

theorem blockLength_block (hblanks : ∀ c ∈ blanks, Text.isBlank c = true)
    (hbody : ¬['*', '/'] <:+: body) (rest : List Char) :
    blockLength (blanks ++ '/' :: '*' :: (body ++ '*' :: '/' :: rest)) =
      blanks.length + body.length + 4 := by
  rw [blockLength, takeWhile_blanks hblanks, dropWhile_blanks hblanks]
  simp only [toBlockEnd?_append hbody, Option.map_some, Option.getD_some]
  omega

theorem blockLength_line (hblanks : ∀ c ∈ blanks, Text.isBlank c = true) (rest : List Char) :
    blockLength (blanks ++ '/' :: '/' :: rest) = 0 := by
  rw [blockLength, dropWhile_blanks hblanks]
  rfl

theorem lineLength_line (hblanks : ∀ c ∈ blanks, Text.isBlank c = true) (hbody : '\n' ∉ body)
    {t : List Char} (ht : LineEnd t) :
    lineLength (blanks ++ '/' :: '/' :: (body ++ t)) = blanks.length + body.length + 2 := by
  have hline : (body ++ t).takeWhile (· ≠ '\n') = body := by
    rw [Json.takeWhile_append_lineEnd ht (by decide), List.takeWhile_eq_self_iff]
    exact fun c hc => decide_eq_true fun heq => hbody (heq ▸ hc)
  rw [lineLength, takeWhile_blanks hblanks, dropWhile_blanks hblanks]
  simp only [hline]
  omega

theorem blank_append (hp : ∀ c ∈ p, isSpace c = true)
    (hblanks : ∀ c ∈ blanks, Text.isBlank c = true) : ∀ c ∈ p ++ blanks, Text.isBlank c = true := by
  rintro c hc
  rcases List.mem_append.mp hc with hc | hc
  · exact isBlank_of_isSpace (hp c hc)
  · exact hblanks c hc

/-- The first pass takes out blocks. -/
theorem blockPass : Pass blockLength (Block isSpace) Line where
  removes := by
    rintro _ @⟨blanks, body, tail, hblanks, hbody, htail, hfeed⟩
    refine ⟨tail, htail, fun p t hp _ => ?_⟩
    have hlength := blockLength_block (blank_append hp hblanks) hbody (tail ++ t)
    have hsplit : p ++ ((blanks ++ '/' :: '*' :: (body ++ '*' :: '/' :: tail)) ++ t) =
        (p ++ blanks ++ '/' :: '*' :: (body ++ ['*'])) ++ '/' :: (tail ++ t) := by simp
    rw [hsplit, erase_comment _ (by decide), erase_line hfeed]
    rw [← hsplit]
    simp only [List.append_assoc, List.cons_append, List.length_append, List.length_cons,
      List.length_nil] at hlength ⊢
    omega
  keeps := by
    rintro _ @⟨blanks, body, hblanks, hbody⟩ p t hp
    have hinline : '\n' ∉ '/' :: body := by simp [hbody]
    have hshown := erase_shown (fun q hq => blockLength_line hq (body ++ t)) (by decide)
      (blank_append hp hblanks) true
    rw [← List.cons_append, erase_line hinline] at hshown
    simpa using hshown
  visible := blockLength_of_visible

/-- The second pass takes out lines. -/
theorem linePass : Pass lineLength Line (fun _ => False) where
  removes := by
    rintro _ @⟨blanks, body, hblanks, hbody⟩
    refine ⟨[], by simp, fun p t hp ht => ?_⟩
    have hlength := lineLength_line (blank_append hp hblanks) hbody ht
    obtain ⟨l, c, hlast⟩ : ∃ l c, '/' :: body = l ++ [c] :=
      ⟨_, _, (List.dropLast_append_getLast (List.cons_ne_nil '/' body)).symm⟩
    have hc : c ≠ '\n' := by
      rintro rfl
      have hmem : '\n' ∈ '/' :: body := by simp [hlast]
      simp [hbody] at hmem
    have hsplit : p ++ ((blanks ++ '/' :: '/' :: body) ++ t) =
        (p ++ blanks ++ '/' :: l) ++ c :: t := by simp [hlast]
    rw [hsplit, erase_comment _ hc, List.nil_append]
    have hcount := congrArg List.length hlast
    rw [← hsplit]
    simp only [List.append_assoc, List.cons_append, List.length_append, List.length_cons,
      List.length_nil] at hlength hcount ⊢
    omega
  keeps hw := hw.elim
  visible := lineLength_of_visible

/-! ### Whole texts -/

/-- A text, line by line, with a line feed in front of each line. -/
def fed (lines : List (List Char)) : List Char := lines.flatMap ('\n' :: ·)

theorem lineEnd_fed (lines : List (List Char)) : LineEnd (fed lines) := by
  cases lines <;> simp [LineEnd, fed]

theorem fed_eq {lines : List (List Char)} (h : lines ≠ []) :
    fed lines = '\n' :: ['\n'].intercalate lines := by
  induction lines with
  | nil => exact absurd rfl h
  | cons l lines ih =>
      cases lines with
      | nil => simp [fed]
      | cons m lines =>
          have hrest := ih (List.cons_ne_nil m lines)
          rw [fed, List.flatMap_cons]
          rw [fed] at hrest
          rw [hrest]
          simp

theorem notMem_of_mem_splitOn {l : List Char} (hl : l ∈ cs.splitOn '\n') : '\n' ∉ l := by
  rw [List.splitOn_eq_splitOnP] at hl
  induction cs generalizing l with
  | nil => simp_all
  | cons c cs ih =>
      rw [List.splitOnP_cons_eq_if_modifyHead] at hl
      split at hl
      case isTrue =>
        rcases List.mem_cons.mp hl with rfl | hl
        · simp
        · exact ih hl
      case isFalse hc =>
        cases hparts : cs.splitOnP (· == '\n') with
        | nil => simp [hparts] at hl
        | cons part parts =>
            rw [hparts] at hl ih
            rcases List.mem_cons.mp hl with rfl | hl
            · rw [List.mem_cons, not_or]
              exact ⟨fun heq => hc (beq_iff_eq.mpr heq.symm), ih List.mem_cons_self⟩
            · exact ih (List.mem_cons_of_mem part hl)

theorem quiet_of_append {l : List Char} (h : Quiet (l ++ rest)) : Quiet rest := by
  induction l with
  | nil => exact h
  | cons c l ih => exact ih h.2

/-- Comments between the lines are litter. -/
theorem littered_of_commented {lines pieces : List (List Char)}
    (h : Commented isSpace lines pieces) (hlines : ∀ l ∈ lines, '\n' ∉ l)
    (hquiet : Quiet (fed lines)) :
    Littered (fun w => Block isSpace w ∨ Line w) false (fed lines) (fed pieces) := by
  induction h with
  | nil => exact .nil
  | @line lines pieces l _ ih =>
      rw [List.forall_mem_cons] at hlines
      rw [fed, List.flatMap_cons, List.cons_append] at hquiet
      have hrest := ih hlines.2 (quiet_of_append hquiet.2)
      exact .feed ((hrest.append hlines.1).start (hquiet.1 rfl))
  | @comment w lines pieces hw _ ih =>
      have hrest := ih hlines hquiet
      have hend := lineEnd_fed lines
      show Littered _ false (fed lines) ('\n' :: (w ++ fed pieces))
      generalize fed lines = plain at hrest hend
      generalize fed pieces = littered at hrest
      cases hrest with
      | nil =>
          rw [List.append_nil]
          exact .last (.lastComment hw.symm)
      | char hc => exact absurd (hend _ rfl) hc
      | feed h => exact .feed (.comment hw.symm h)
      | last h => exact .last (.comment hw.symm h)

theorem ne_nil_of_commented {behind : Char → Bool} {lines pieces : List (List Char)}
    (h : Commented behind lines pieces) (hlines : lines ≠ []) : pieces ≠ [] := by
  cases h with
  | nil => exact absurd rfl hlines
  | line | comment => exact List.cons_ne_nil _ _

/-- What the two passes leave of a text with comments is the text, blank in other places. -/
theorem respaced_strip (hvisible : Visible cs) (hquiet : Quiet cs) {pieces : List (List Char)}
    (h : Commented isSpace (cs.splitOn '\n') pieces) :
    Respaced (skipSpace cs) (skipSpace (strip (['\n'].intercalate pieces))) := by
  have hlines := List.splitOn_ne_nil '\n' cs
  have hfed : fed (cs.splitOn '\n') = '\n' :: cs := by
    rw [fed_eq hlines, List.intercalate_splitOn]
  have hlitter := littered_of_commented h (fun _ => notMem_of_mem_splitOn)
    (hfed ▸ ⟨fun _ => hvisible, hquiet⟩)
  rw [hfed, fed_eq (ne_nil_of_commented h hlines)] at hlitter
  have hnil : ∀ c ∈ ([] : List Char), isSpace c = true := by simp
  cases hlitter with
  | char hc => exact absurd rfl hc
  | feed hlitter =>
      have hlines := blockPass.littered id hlitter hnil (fun h => by cases h)
      have hplain := linePass.littered .inl hlines hnil (fun h => by cases h)
      exact hplain.respaced fun _ hw => hw

end Comment

/-- The document that a text writes, where it is taken as it is. -/
def ofPlainText (text : String) : Except Fault Document :=
  match Json.parse text with
  | .error e => .error (.text e)
  | .ok source => if source.isObject then ofObject source else .error .root

/-- **Comments are invisible.**  A text that gives a value is read the same with whole
comments in front of any of its lines and behind the last, and without any it is left as it
is. -/
theorem ofText_commented {text : String} {v : Json} (h : Json.parse text = .ok v)
    {pieces : List (List Char)}
    (hpieces : Comment.Commented Json.isSpace (text.toList.splitOn '\n') pieces) :
    ofText (String.ofList (['\n'].intercalate pieces)) = ofPlainText text ∧
      Comment.strip text.toList = text.toList := by
  obtain ⟨hvisible, hquiet⟩ := Comment.quiet_of_parse h
  have hrespaced := Comment.respaced_strip hvisible hquiet hpieces
  have hparse : Json.parse (String.ofList (Comment.strip (['\n'].intercalate pieces))) = .ok v := by
    rw [Json.parse_eq_ok, String.toList_ofList]
    exact Json.parseChars_respaced hrespaced (Json.parse_eq_ok.mp h)
  refine ⟨?_, Comment.strip_of_parse h⟩
  rw [ofText, ofPlainText, String.toList_ofList, hparse, h]

/-- The object without items, from its text in any style. -/
theorem parse_noItems {text : String} (indent : Option String)
    (hblank : ({ indent } : Json.Style).Blank)
    (htext : text = Json.write { indent } (.obj [("items", .arr [])])) :
    Json.parse text = .ok (.obj [("items", .arr [])]) := by
  rw [htext]
  exact Json.parse_write hblank (Json.writable_obj.mpr ⟨by simp, by simp [Json.writable_arr]⟩)

/-- Comments with quotes, brackets and marks of other comments in them, at the front, between
the lines and at the end. -/
theorem ofText_commented_quoted :
    let text := "\x7b\n  \"items\": []\n\x7d"
    let pieces := ["// \x7b\"items\": 1 /*", "\x7b", " /* \"\n// a\n [ */\t",
      "  \"items\": []", "\x7d", "\u00A0// */"].map String.toList
    Json.parse text = .ok (.obj [("items", .arr [])]) ∧
      Comment.Commented Json.isSpace (text.toList.splitOn '\n') pieces ∧
      ofText (String.ofList (['\n'].intercalate pieces)) = ofPlainText text ∧
      ofPlainText text = .ok ⟨1, []⟩ := by
  intro text pieces
  have hparse : Json.parse text = .ok (.obj [("items", .arr [])]) := parse_noItems (some "  ")
    (by simp [Json.Style.Blank, Json.isSpace]) (by decide +kernel)
  have hplain : ofPlainText text = .ok ⟨1, []⟩ := by
    rw [ofPlainText, hparse]
    rfl
  have hfirst : Comment.Line "// \x7b\"items\": 1 /*".toList :=
    @Comment.Line.mk [] " \x7b\"items\": 1 /*".toList (by simp) (by decide +kernel)
  have hblock : Comment.Block Json.isSpace " /* \"\n// a\n [ */\t".toList :=
    @Comment.Block.mk Json.isSpace [' '] " \"\n// a\n [ ".toList ['\t']
      (List.forall_mem_singleton.mpr rfl) (by decide +kernel) (List.forall_mem_singleton.mpr rfl)
      (by decide)
  have hlast : Comment.Line "\u00A0// */".toList :=
    @Comment.Line.mk ['\u00A0'] " */".toList (List.forall_mem_singleton.mpr rfl)
      (by decide +kernel)
  have hlines : text.toList.splitOn '\n' =
      ["\x7b", "  \"items\": []", "\x7d"].map String.toList := by decide +kernel
  have hpieces : Comment.Commented Json.isSpace (text.toList.splitOn '\n') pieces := by
    rw [hlines]
    exact .comment (.inl hfirst) (.line _ (.comment (.inr hblock)
      (.line _ (.line _ (.comment (.inl hlast) .nil)))))
  exact ⟨hparse, hpieces, (ofText_commented hparse hpieces).1, hplain⟩

/-- A blank behind the end of a block that may not stand between tokens stays in the text,
which is then refused. -/
theorem ofText_wideBlank :
    let text := "\x7b\"items\": []\x7d"
    let pieces := ["/* c */\u00A0", text].map String.toList
    Json.parse text = .ok (.obj [("items", .arr [])]) ∧
      Comment.Commented Text.isBlank (text.toList.splitOn '\n') pieces ∧
      ofPlainText text = .ok ⟨1, []⟩ ∧
      ofText (String.ofList (['\n'].intercalate pieces)) = .error (.text ⟨.value, 0, 1, 1⟩) := by
  intro text pieces
  have hparse : Json.parse text = .ok (.obj [("items", .arr [])]) := parse_noItems none
    (by simp [Json.Style.Blank]) (by decide +kernel)
  have hplain : ofPlainText text = .ok ⟨1, []⟩ := by
    rw [ofPlainText, hparse]
    rfl
  have hblock : Comment.Block Text.isBlank "/* c */\u00A0".toList :=
    @Comment.Block.mk Text.isBlank [] " c ".toList ['\u00A0'] (by simp) (by decide +kernel)
      (List.forall_mem_singleton.mpr rfl) (by decide)
  have hlines : text.toList.splitOn '\n' = [text].map String.toList := by decide +kernel
  have hpieces : Comment.Commented Text.isBlank (text.toList.splitOn '\n') pieces := by
    rw [hlines]
    exact .comment (.inr hblock) (.line _ .nil)
  have hstrip : Comment.strip (['\n'].intercalate pieces) =
      "\u00A0\n\x7b\"items\": []\x7d".toList := by
    decide +kernel
  have hread : Json.parseChars "\u00A0\n\x7b\"items\": []\x7d".toList =
      .error ⟨.value, "\u00A0\n\x7b\"items\": []\x7d".toList⟩ := rfl
  refine ⟨hparse, hpieces, hplain, ?_⟩
  rw [ofText, String.toList_ofList, hstrip, String.ofList_toList, Json.parse, hread]
  rfl

end Questionnaire.Document
