/-
Trimming.

What is trimmed loses the marked characters in front and behind, and no others.  So it does not
matter how many of them stand around a text, `trimBy_padded`; and where a text has a character that
is not marked, trimming it is trimming what stands before that in front and what stands after it
behind, `trimBy_around`.  A half that was trimmed at one end already is trimmed like the whole half.
-/
import Mathlib.Data.List.DropRight
import Questionnaire.Text.Blank

namespace Questionnaire.Text

variable {drop : Char → Bool} {front cs back ds : List Char} {c : Char}

theorem trimBy_eq (drop : Char → Bool) (cs : List Char) :
    trimBy drop cs = (cs.dropWhile drop).rdropWhile drop := rfl

theorem mem_of_mem_trimBy (h : c ∈ trimBy drop cs) : c ∈ cs :=
  (List.dropWhile_suffix drop).subset ((List.rdropWhile_prefix drop _).subset h)

theorem trimBy_front (hfront : ∀ c ∈ front, drop c = true) (cs : List Char) :
    trimBy drop (front ++ cs) = trimBy drop cs := by
  rw [trimBy_eq, List.dropWhile_append_of_pos hfront, trimBy_eq]

theorem rdropWhile_back (hback : ∀ c ∈ back, drop c = true) (cs : List Char) :
    (cs ++ back).rdropWhile drop = cs.rdropWhile drop := by
  rw [List.rdropWhile, List.reverse_append,
    List.dropWhile_append_of_pos fun c hc => hback c (List.mem_reverse.mp hc), List.rdropWhile]

theorem trimBy_back (hback : ∀ c ∈ back, drop c = true) (cs : List Char) :
    trimBy drop (cs ++ back) = trimBy drop cs := by
  by_cases hall : ∀ c ∈ cs, drop c = true
  · have hboth : ∀ c ∈ cs ++ back, drop c = true := List.forall_mem_append.mpr ⟨hall, hback⟩
    rw [trimBy_eq, trimBy_eq, List.dropWhile_eq_nil_iff.mpr hall,
      List.dropWhile_eq_nil_iff.mpr hboth]
  · have hleft : cs.dropWhile drop ≠ [] := mt List.dropWhile_eq_nil_iff.mp hall
    rw [trimBy_eq, List.dropWhile_append, if_neg (by simpa using hleft), rdropWhile_back hback,
      trimBy_eq]

/-- **Marked characters around a text are trimmed away.** -/
theorem trimBy_padded (hfront : ∀ c ∈ front, drop c = true) (hback : ∀ c ∈ back, drop c = true)
    (cs : List Char) : trimBy drop (front ++ cs ++ back) = trimBy drop cs := by
  rw [trimBy_back hback, trimBy_front hfront]

theorem dropWhile_around (hc : drop c = false) (cs ds : List Char) :
    (cs ++ c :: ds).dropWhile drop = cs.dropWhile drop ++ c :: ds := by
  rw [List.dropWhile_append, List.dropWhile_cons_of_neg (by simp [hc])]
  split
  case isTrue hempty => rw [List.isEmpty_iff.mp hempty, List.nil_append]
  case isFalse => rfl

theorem rdropWhile_around (hc : drop c = false) (cs ds : List Char) :
    (cs ++ c :: ds).rdropWhile drop = cs ++ c :: ds.rdropWhile drop := by
  rw [List.rdropWhile, List.reverse_append, List.reverse_cons, List.append_assoc,
    List.singleton_append, dropWhile_around hc, List.rdropWhile]
  simp

/-- **A character that is not marked keeps the trimming of the two sides of it apart.** -/
theorem trimBy_around (hc : drop c = false) (cs ds : List Char) :
    trimBy drop (cs ++ c :: ds) = cs.dropWhile drop ++ c :: ds.rdropWhile drop := by
  rw [trimBy_eq, dropWhile_around hc, rdropWhile_around hc]

theorem trimBy_dropWhile (cs : List Char) : trimBy drop (cs.dropWhile drop) = trimBy drop cs := by
  rw [trimBy_eq, trimBy_eq, List.dropWhile_idempotent]

theorem trimBy_rdropWhile (cs : List Char) :
    trimBy drop (cs.rdropWhile drop) = trimBy drop cs := by
  have hdropped : ∀ c ∈ (cs.reverse.takeWhile drop).reverse, drop c = true :=
    fun c hc => List.mem_takeWhile_imp (List.mem_reverse.mp hc)
  calc trimBy drop (cs.rdropWhile drop)
      = trimBy drop (cs.rdropWhile drop ++ (cs.reverse.takeWhile drop).reverse) :=
        (trimBy_back hdropped _).symm
    _ = trimBy drop cs := by
        rw [List.rdropWhile, ← List.reverse_append, List.takeWhile_append_dropWhile,
          List.reverse_reverse]

end Questionnaire.Text
