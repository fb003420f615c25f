import BeanBridge.BeanName.Basic
import BeanBridge.BeanName.Glob

/-! The rows of the wildcard matcher, entry by entry.  A row begins with the answer for the whole text
and goes on with the row of the text behind its first character, so a character of the pattern that
is no star is matched against the first character of the text. -/

namespace BeanBridge.Glob

variable {c d : Char} {pattern text : List Char}

theorem reach_ne_nil {row : List Bool} (h : row ≠ []) : reach row ≠ [] := by
  obtain ⟨first, rest, rfl⟩ := List.exists_cons_of_ne_nil h
  rw [reach]
  split <;> exact List.cons_ne_nil _ _

theorem tail_reach_cons (b : Bool) {row : List Bool} (h : row ≠ []) :
    (reach (b :: row)).tail = reach row := by
  obtain ⟨first, rest, hRow⟩ := List.exists_cons_of_ne_nil (reach_ne_nil h)
  rw [reach, hRow]
  rfl

theorem row_cons (h : c ≠ '*') (text pattern : List Char) :
    row text (c :: pattern) =
      List.zipWith (fun d behind => standsFor c d && behind) text (row text pattern).tail ++
        [false] :=
  row.eq_3 text c pattern h

theorem row_ne_nil (text pattern : List Char) : row text pattern ≠ [] := by
  induction pattern with
  | nil => exact List.append_ne_nil_of_right_ne_nil _ (List.cons_ne_nil _ _)
  | cons c pattern ih =>
    by_cases hStar : c = '*'
    · subst hStar
      exact reach_ne_nil ih
    · rw [row_cons hStar]
      exact List.append_ne_nil_of_right_ne_nil _ (List.cons_ne_nil _ _)

/-- Behind its first entry a row is the row of the rest of the text. -/
theorem tail_row (d : Char) (text pattern : List Char) :
    (row (d :: text) pattern).tail = row text pattern := by
  induction pattern with
  | nil => rfl
  | cons c pattern ih =>
    obtain ⟨first, rest, hRow⟩ := List.exists_cons_of_ne_nil (row_ne_nil (d :: text) pattern)
    rw [hRow, List.tail_cons] at ih
    by_cases hStar : c = '*'
    · subst hStar
      rw [row, row, hRow, ih]
      exact tail_reach_cons first (row_ne_nil text pattern)
    · obtain ⟨behind, others, hBehind⟩ := List.exists_cons_of_ne_nil (row_ne_nil text pattern)
      rw [row_cons hStar, row_cons hStar, hRow, ih, hBehind]
      rfl

theorem isMatch_nil (text : List Char) : isMatch [] text = text.isEmpty := by
  cases text <;> rfl

theorem isMatch_cons_nil (h : c ≠ '*') (pattern : List Char) :
    isMatch (c :: pattern) [] = false := by
  rw [isMatch, row_cons h]
  rfl

theorem isMatch_cons_cons (h : c ≠ '*') (pattern : List Char) (d : Char) (text : List Char) :
    isMatch (c :: pattern) (d :: text) = (standsFor c d && isMatch pattern text) := by
  obtain ⟨first, rest, hRow⟩ := List.exists_cons_of_ne_nil (row_ne_nil text pattern)
  rw [isMatch, row_cons h, tail_row, isMatch, hRow]
  rfl

/-- A pattern without wildcards matches itself and nothing else. -/
theorem isMatch_literal (h : ∀ c ∈ pattern, BeanName.isWildcard c = false) :
    isMatch pattern text = true ↔ pattern = text := by
  induction pattern generalizing text with
  | nil => rw [isMatch_nil, List.isEmpty_iff, eq_comm]
  | cons c pattern ih =>
    obtain ⟨hFirst, hRest⟩ := List.forall_mem_cons.mp h
    obtain ⟨hStar, hMark⟩ : c ≠ '*' ∧ c ≠ '?' := by simpa [BeanName.isWildcard] using hFirst
    cases text with
    | nil => simp [isMatch_cons_nil hStar]
    | cons d text => simp [isMatch_cons_cons hStar, standsFor, hMark, ih hRest]

end BeanBridge.Glob
