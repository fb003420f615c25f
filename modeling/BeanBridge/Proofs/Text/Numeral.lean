import Mathlib.Data.List.TakeWhile

/-! Numerals in texts.  A text that begins with letters of one kind and goes on with another falls
apart there in one way only, so a numeral can be told from what follows it. -/

namespace BeanBridge.Text

/-- The letters of one kind at the beginning of a text are told by the text. -/
theorem append_inj_of_head {kind : Char → Bool} {first first' rest rest' : List Char}
    (hFirst : ∀ c ∈ first, kind c = true) (hFirst' : ∀ c ∈ first', kind c = true)
    (hRest : rest.head?.any kind = false) (hRest' : rest'.head?.any kind = false)
    (h : first ++ rest = first' ++ rest') : first = first' ∧ rest = rest' := by
  have hNone {rest : List Char} (hRest : rest.head?.any kind = false) :
      rest.takeWhile kind = [] := by
    cases rest with
    | nil => rfl
    | cons c rest => exact List.takeWhile_cons_of_neg (by simpa using hRest)
  have hTaken := congrArg (List.takeWhile kind) h
  rw [List.takeWhile_append_of_pos hFirst, List.takeWhile_append_of_pos hFirst', hNone hRest,
    hNone hRest', List.append_nil, List.append_nil] at hTaken
  subst hTaken
  exact ⟨rfl, List.append_cancel_left h⟩

theorem toDigits_inj {m n : Nat} : Nat.toDigits 10 m = Nat.toDigits 10 n ↔ m = n := by
  refine ⟨fun h => ?_, congrArg _⟩
  have hValue := congrArg (Nat.ofDigitChars 10 · 0) h
  simpa using hValue

theorem isDigit_of_mem_toDigits {n : Nat} : ∀ c ∈ Nat.toDigits 10 n, c.isDigit = true :=
  fun _ => Nat.isDigit_of_mem_toDigits (by decide) (by decide)

/-- A numeral is told from what follows it, unless more digits do. -/
theorem toDigits_append_inj {m n : Nat} {rest rest' : List Char}
    (hRest : rest.head?.any Char.isDigit = false) (hRest' : rest'.head?.any Char.isDigit = false)
    (h : Nat.toDigits 10 m ++ rest = Nat.toDigits 10 n ++ rest') : m = n ∧ rest = rest' := by
  obtain ⟨hDigits, hRests⟩ :=
    append_inj_of_head isDigit_of_mem_toDigits isDigit_of_mem_toDigits hRest hRest' h
  exact ⟨toDigits_inj.mp hDigits, hRests⟩

end BeanBridge.Text
