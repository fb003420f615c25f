import Mathlib.Data.List.Forall2
import BeanBridge.Proofs.BeanName.Glob

/-! What wildcards stand for.  A pattern is a list of slots, one for each of its characters; a text
fits if it falls into pieces, one behind the other, that the slots take.  The rows of the matcher
answer this for every suffix of the text at once. -/

namespace BeanBridge.Glob

/-- A place in a pattern. -/
inductive Slot where
  /-- Takes any run of characters. -/
  | run
  /-- Takes any one character. -/
  | one
  /-- Takes this character. -/
  | only (c : Char)
  deriving DecidableEq

namespace Slot

def Takes : Slot → List Char → Prop
  | run, _ => True
  | one, piece => ∃ d, piece = [d]
  | only c, piece => piece = [c]

/-- The other slot takes whatever this one takes. -/
def Within (slot other : Slot) : Prop := ∀ piece, slot.Takes piece → other.Takes piece

/-- The slot that a character of a pattern makes. -/
def ofChar (c : Char) : Slot := if c = '*' then run else if c = '?' then one else only c

/-- The slot takes more than one piece. -/
def isWild : Slot → Bool
  | run | one => true
  | only _ => false

theorem ofChar_of_not_isWildcard {c : Char} (h : BeanName.isWildcard c = false) :
    ofChar c = only c := by
  have hFree : c ≠ '*' ∧ c ≠ '?' := by simpa [BeanName.isWildcard] using h
  rw [ofChar, if_neg hFree.1, if_neg hFree.2]

theorem isWild_ofChar (c : Char) : (ofChar c).isWild = BeanName.isWildcard c := by
  by_cases hStar : c = '*'
  · subst hStar
    rfl
  · by_cases hMark : c = '?'
    · subst hMark
      rfl
    · simp [ofChar, isWild, BeanName.isWildcard, hStar, hMark]

/-- A wildcard takes any character, and every character takes itself. -/
theorem ofChar_takes {c d : Char} (h : BeanName.isWildcard c = true ∨ c = d) :
    (ofChar c).Takes [d] := by
  by_cases hStar : c = '*'
  · subst hStar
    trivial
  · by_cases hMark : c = '?'
    · subst hMark
      exact ⟨d, rfl⟩
    · have hLiteral : BeanName.isWildcard c = false := by
        simp [BeanName.isWildcard, hStar, hMark]
      obtain rfl : c = d := h.resolve_left (by simp [hLiteral])
      rw [ofChar_of_not_isWildcard hLiteral]
      rfl

end Slot

/-- The text falls into pieces that the slots take, one each. -/
def Fits (slots : List Slot) (text : List Char) : Prop :=
  ∃ pieces : List (List Char), List.Forall₂ Slot.Takes slots pieces ∧ pieces.flatten = text

section Fits

variable {slot : Slot} {slots others : List Slot} {text : List Char}

theorem fits_nil : Fits [] text ↔ text = [] := by
  constructor
  · rintro ⟨pieces, hTakes, rfl⟩
    cases hTakes
    rfl
  · rintro rfl
    exact ⟨[], .nil, rfl⟩

theorem fits_cons : Fits (slot :: slots) text ↔
    ∃ piece rest, slot.Takes piece ∧ Fits slots rest ∧ piece ++ rest = text := by
  constructor
  · rintro ⟨_, hTakes, rfl⟩
    cases hTakes with
    | cons hPiece hPieces => exact ⟨_, _, hPiece, ⟨_, hPieces, rfl⟩, rfl⟩
  · rintro ⟨piece, _, hPiece, ⟨pieces, hPieces, rfl⟩, rfl⟩
    exact ⟨piece :: pieces, .cons hPiece hPieces, rfl⟩

theorem fits_one_cons :
    Fits (.one :: slots) text ↔ ∃ d rest, text = d :: rest ∧ Fits slots rest := by
  rw [fits_cons]
  constructor
  · rintro ⟨_, rest, ⟨d, rfl⟩, hRest, rfl⟩
    exact ⟨d, rest, rfl, hRest⟩
  · rintro ⟨d, rest, rfl, hRest⟩
    exact ⟨[d], rest, ⟨d, rfl⟩, hRest, rfl⟩

theorem fits_only_cons {c : Char} :
    Fits (.only c :: slots) text ↔ ∃ rest, text = c :: rest ∧ Fits slots rest := by
  rw [fits_cons]
  constructor
  · rintro ⟨_, rest, rfl, hRest, rfl⟩
    exact ⟨rest, rfl, hRest⟩
  · rintro ⟨rest, rfl, hRest⟩
    exact ⟨[c], rest, rfl, hRest, rfl⟩

/-- A slot for a run takes nothing more, or a character more. -/
theorem fits_run_cons : Fits (.run :: slots) text ↔
    Fits slots text ∨ ∃ d rest, text = d :: rest ∧ Fits (.run :: slots) rest := by
  simp only [fits_cons, Slot.Takes, true_and]
  constructor
  · rintro ⟨piece, rest, hRest, rfl⟩
    cases piece with
    | nil => exact .inl hRest
    | cons d piece => exact .inr ⟨d, piece ++ rest, rfl, piece, rest, hRest, rfl⟩
  · rintro (hText | ⟨d, _, rfl, piece, rest, hRest, rfl⟩)
    · exact ⟨[], text, hText, rfl⟩
    · exact ⟨d :: piece, rest, hRest, rfl⟩

/-- Slots that take at least as much are fitted by at least as many texts. -/
theorem Fits.mono (h : List.Forall₂ Slot.Within slots others) (hFits : Fits slots text) :
    Fits others text := by
  induction h generalizing text with
  | nil => exact hFits
  | cons hSlot _ ih =>
    obtain ⟨piece, rest, hPiece, hRest, rfl⟩ := fits_cons.mp hFits
    exact fits_cons.mpr ⟨piece, rest, hSlot piece hPiece, ih hRest, rfl⟩

theorem fits_of_forall₂ (h : List.Forall₂ (fun slot d => slot.Takes [d]) slots text) :
    Fits slots text := by
  induction h with
  | nil => exact fits_nil.mpr rfl
  | cons hPiece _ ih => exact fits_cons.mpr ⟨_, _, hPiece, ih, rfl⟩

theorem fits_literal {literal : List Char} : Fits (literal.map .only) text ↔ text = literal := by
  induction literal generalizing text with
  | nil => exact fits_nil
  | cons c literal ih => simp only [List.map_cons, fits_only_cons, ih, exists_eq_right]

/-- What a slot asks for is somewhere in the text. -/
theorem Fits.mem_of_only {c : Char} (hFits : Fits slots text) (h : .only c ∈ slots) : c ∈ text := by
  induction slots generalizing text with
  | nil => nomatch h
  | cons slot slots ih =>
    obtain ⟨piece, rest, hPiece, hRest, rfl⟩ := fits_cons.mp hFits
    rcases List.mem_cons.mp h with rfl | hBehind
    · obtain rfl : piece = [c] := hPiece
      exact List.mem_append_left _ (List.mem_singleton_self c)
    · exact List.mem_append_right _ (ih hRest hBehind)

end Fits

/-! ### The matcher -/

variable {pattern text : List Char}

theorem tail_row_nil (pattern : List Char) : (row [] pattern).tail = [] := by
  induction pattern with
  | nil => rfl
  | cons c pattern ih =>
    by_cases hStar : c = '*'
    · subst hStar
      obtain ⟨first, rest, hRow⟩ := List.exists_cons_of_ne_nil (row_ne_nil [] pattern)
      obtain rfl : rest = [] := by rwa [hRow] at ih
      rw [row, hRow]
      rfl
    · rw [row_cons hStar]
      rfl

theorem isMatch_star_nil (pattern : List Char) :
    isMatch ('*' :: pattern) [] = isMatch pattern [] := by
  obtain ⟨first, rest, hRow⟩ := List.exists_cons_of_ne_nil (row_ne_nil [] pattern)
  have hTail := tail_row_nil pattern
  rw [hRow, List.tail_cons] at hTail
  rw [isMatch, isMatch, row, hRow, hTail]
  rfl

theorem isMatch_star_cons (pattern : List Char) (d : Char) (text : List Char) :
    isMatch ('*' :: pattern) (d :: text) =
      (isMatch pattern (d :: text) || isMatch ('*' :: pattern) text) := by
  obtain ⟨first, rest, hRow⟩ := List.exists_cons_of_ne_nil (row_ne_nil (d :: text) pattern)
  have hTail := tail_row d text pattern
  rw [hRow, List.tail_cons] at hTail
  obtain ⟨behind, others, hReach⟩ := List.exists_cons_of_ne_nil
    (reach_ne_nil (row_ne_nil text pattern))
  rw [isMatch, isMatch, isMatch, row, row, hRow, reach, hTail, hReach]
  rfl

/-- The matcher finds the texts that fit. -/
theorem isMatch_iff_fits : isMatch pattern text = true ↔ Fits (pattern.map Slot.ofChar) text := by
  induction pattern generalizing text with
  | nil => rw [isMatch_nil, List.isEmpty_iff, List.map_nil, fits_nil]
  | cons c pattern ih =>
    rw [List.map_cons]
    by_cases hStar : c = '*'
    · subst hStar
      show _ ↔ Fits (.run :: _) text
      -- A star stays where it is when it takes a character, so the text decreases here.
      induction text with
      | nil =>
        rw [isMatch_star_nil, ih, fits_run_cons]
        exact (or_iff_left fun ⟨_, _, h, _⟩ => nomatch h).symm
      | cons d text ihText =>
        rw [isMatch_star_cons, Bool.or_eq_true, ih, ihText]
        refine Iff.trans ?_ fits_run_cons.symm
        simp
    · by_cases hMark : c = '?'
      · subst hMark
        show _ ↔ Fits (.one :: _) text
        rw [fits_one_cons]
        cases text with
        | nil => simp [isMatch_cons_nil hStar]
        | cons d text => simp [isMatch_cons_cons hStar, standsFor, ih]
      · have hOnly : Slot.ofChar c = .only c := by rw [Slot.ofChar, if_neg hStar, if_neg hMark]
        rw [hOnly, fits_only_cons]
        cases text with
        | nil => simp [isMatch_cons_nil hStar]
        | cons d text => simp [isMatch_cons_cons hStar, standsFor, hMark, ih, @eq_comm _ c d]

/-- Every pattern matches its own text. -/
theorem isMatch_self (pattern : List Char) : isMatch pattern pattern = true := by
  refine isMatch_iff_fits.mpr (fits_of_forall₂ ?_)
  rw [List.forall₂_map_left_iff, List.forall₂_same]
  exact fun c _ => Slot.ofChar_takes (.inr rfl)

end BeanBridge.Glob
