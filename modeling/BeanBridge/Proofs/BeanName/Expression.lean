import BeanBridge.BeanName.Expression
import BeanBridge.Proofs.BeanName.Wildcards

/-! Expressions for wildcards.  Of what expressions can say, the translation of a pattern uses six
parts: the flag for the dot, the two anchors, the dot, runs of dots and characters for themselves.
What a library documents about these is enough for the expression to find the texts that fit the
pattern, and so to agree with the matcher by rows, as long as the expression compiles. -/

namespace BeanBridge

namespace RegexLibrary

variable {library : RegexLibrary}

def Part.text (library : RegexLibrary) : Part → String
  | dotAll => "(?s)"
  | start => "^"
  | finish => "$"
  | any => "."
  | anyRun => ".*"
  | literal c => library.escape (String.singleton c)

/-- The text of an expression. -/
def spell (library : RegexLibrary) : List Part → String
  | [] => ""
  | part :: parts => part.text library ++ library.spell parts

/-- The parts take what stands at the front of a text, one after another.  The flags tell whether
nothing stands before the front and whether the dot stands for line feeds. -/
def Occur (begins dotAll : Bool) : List Part → List Char → Prop
  | [], _ => True
  | .dotAll :: parts, text => Occur begins true parts text
  | .start :: parts, text => begins = true ∧ Occur begins dotAll parts text
  | .finish :: parts, text => text = [] ∧ Occur begins dotAll parts text
  | .any :: parts, text =>
    ∃ d rest, text = d :: rest ∧ (dotAll = true ∨ d ≠ '\n') ∧ Occur false dotAll parts rest
  | .anyRun :: parts, text =>
    ∃ run rest, text = run ++ rest ∧ (dotAll = true ∨ '\n' ∉ run) ∧
      Occur (begins && run.isEmpty) dotAll parts rest
  | .literal c :: parts, text => ∃ rest, text = c :: rest ∧ Occur false dotAll parts rest

/-- The parts occur somewhere in the text. -/
def Found (parts : List Part) (text : List Char) : Prop :=
  ∃ before rest, text = before ++ rest ∧ Occur before.isEmpty false parts rest

/-- Expressions that compile find the texts that their parts are found in. -/
def Documented (library : RegexLibrary) : Prop :=
  ∀ parts expression, library.compile? (library.spell parts) = some expression →
    ∀ text, library.finds expression text = true ↔ Found parts text.toList

/-- The expression for the pattern compiles. -/
def Compiles (library : RegexLibrary) (pattern : String) : Prop :=
  (library.compile? (Glob.translate library pattern)).isSome = true

instance (pattern : String) : Decidable (library.Compiles pattern) :=
  inferInstanceAs (Decidable (_ = true))

theorem spell_append (library : RegexLibrary) (parts others : List Part) :
    library.spell (parts ++ others) = library.spell parts ++ library.spell others := by
  induction parts with
  | nil => exact (String.empty_append).symm
  | cons part parts ih => rw [List.cons_append, spell, spell, ih, String.append_assoc]

/-! ### A library of these parts -/

theorem exists_append_iff {P : List Char → List Char → Prop} {text : List Char} :
    (∃ before rest, text = before ++ rest ∧ P before rest) ↔
      ∃ n, n ≤ text.length ∧ P (text.take n) (text.drop n) := by
  constructor
  · rintro ⟨before, rest, rfl, h⟩
    refine ⟨before.length, by simp, ?_⟩
    rwa [List.take_left, List.drop_left]
  · rintro ⟨n, -, h⟩
    exact ⟨_, _, (List.take_append_drop n text).symm, h⟩

instance decidableOccur : (begins dotAll : Bool) → (parts : List Part) → (text : List Char) →
    Decidable (Occur begins dotAll parts text)
  | _, _, [], _ => isTrue trivial
  | begins, _, .dotAll :: parts, text => decidableOccur begins true parts text
  | begins, dotAll, .start :: parts, text =>
    have := decidableOccur begins dotAll parts text
    inferInstanceAs (Decidable (begins = true ∧ Occur begins dotAll parts text))
  | begins, dotAll, .finish :: parts, text =>
    have := decidableOccur begins dotAll parts text
    inferInstanceAs (Decidable (text = [] ∧ Occur begins dotAll parts text))
  | _, _, .any :: _, [] => isFalse fun ⟨_, _, h, _⟩ => nomatch h
  | _, dotAll, .any :: parts, d :: rest =>
    have := decidableOccur false dotAll parts rest
    decidable_of_iff ((dotAll = true ∨ d ≠ '\n') ∧ Occur false dotAll parts rest)
      ⟨fun h => ⟨d, rest, rfl, h⟩, fun ⟨_, _, h, hRest⟩ => by cases h; exact hRest⟩
  | begins, dotAll, .anyRun :: parts, text =>
    have (n : Nat) := decidableOccur (begins && (text.take n).isEmpty) dotAll parts (text.drop n)
    decidable_of_iff _ exists_append_iff.symm
  | _, _, .literal _ :: _, [] => isFalse fun ⟨_, h, _⟩ => nomatch h
  | _, dotAll, .literal c :: parts, d :: rest =>
    have := decidableOccur false dotAll parts rest
    decidable_of_iff (d = c ∧ Occur false dotAll parts rest)
      ⟨fun ⟨h, hRest⟩ => ⟨rest, h ▸ rfl, hRest⟩,
        fun ⟨_, h, hRest⟩ => by cases h; exact ⟨rfl, hRest⟩⟩

instance decidableFound (parts : List Part) (text : List Char) : Decidable (Found parts text) :=
  decidable_of_iff _ exists_append_iff.symm

/-- The library that knows these parts only. -/
def ofParts : RegexLibrary where
  Expression := List Part
  compile? text := readParts [] text.toList
  finds parts text := decide (Found parts text.toList)
  escape := quote

/-! ### Expressions read back -/

/-- The letters of a part, where characters are escaped by backslashes. -/
def Part.letters : Part → List Char
  | dotAll => ['(', '?', 's', ')']
  | start => ['^']
  | finish => ['$']
  | any => ['.']
  | anyRun => ['.', '*']
  | literal c => if isMeta c then ['\\', c] else [c]

section Reading

variable (hEscape : library.escape = quote)
include hEscape

theorem toList_text (part : Part) : (part.text library).toList = part.letters := by
  cases part <;> simp [Part.text, Part.letters, hEscape, quote]

theorem toList_spell_cons (part : Part) (parts : List Part) :
    (library.spell (part :: parts)).toList = part.letters ++ (library.spell parts).toList := by
  rw [spell, String.toList_append, toList_text hEscape]

/-- No part begins with the star that would make a dot before it a run. -/
theorem head?_spell (parts : List Part) : (library.spell parts).toList.head? ≠ some '*' := by
  cases parts with
  | nil => exact nofun
  | cons part parts =>
    rw [toList_spell_cons hEscape]
    cases part with
    | literal c =>
      by_cases hMeta : isMeta c = true
      · rw [Part.letters, if_pos hMeta]
        exact nofun
      · rw [Part.letters, if_neg hMeta]
        rintro ⟨⟩
        exact hMeta rfl
    | _ => exact nofun

omit hEscape in
theorem readParts_dot {text : List Char} (h : text.head? ≠ some '*') (read : List Part) :
    readParts read ('.' :: text) = readParts (.any :: read) text := by
  cases text with
  | nil => rfl
  | cons c text => rw [readParts]; rintro _ ⟨⟩; exact h rfl

omit hEscape in
theorem readParts_literal (c : Char) (text : List Char) (read : List Part) :
    readParts read ((Part.literal c).letters ++ text) = readParts (.literal c :: read) text := by
  by_cases hMeta : isMeta c = true
  · rw [Part.letters, if_pos hMeta]
    show readParts read ('\\' :: c :: text) = _
    rw [readParts, if_pos hMeta]
  · rw [Part.letters, if_neg hMeta, List.singleton_append, readParts, if_neg hMeta]
    -- No other row of the reader applies, for these begin with characters that need a backslash.
    all_goals
      intros
      subst_vars
      exact hMeta rfl

theorem readParts_spell (parts read : List Part) :
    readParts read (library.spell parts).toList = some (read.reverse ++ parts) := by
  induction parts generalizing read with
  | nil => exact congrArg some (List.append_nil _).symm
  | cons part parts ih =>
    have hStep : readParts read (library.spell (part :: parts)).toList =
        readParts (part :: read) (library.spell parts).toList := by
      rw [toList_spell_cons hEscape]
      cases part with
      | any => exact readParts_dot (head?_spell hEscape parts) read
      | literal c => exact readParts_literal c _ read
      | _ => rfl
    rw [hStep, ih, List.reverse_cons, List.append_assoc, List.singleton_append]

end Reading

theorem documented_ofParts : ofParts.Documented := by
  intro parts expression hCompiles text
  obtain rfl : parts = expression :=
    Option.some.inj ((readParts_spell rfl parts []).symm.trans hCompiles)
  exact decide_eq_true_iff

end RegexLibrary

open RegexLibrary

namespace Glob

/-- The part that a character of a pattern becomes. -/
def partOf (c : Char) : Part := if c = '*' then .anyRun else if c = '?' then .any else .literal c

theorem partOf_of_not_isWildcard {c : Char} (h : BeanName.isWildcard c = false) :
    partOf c = .literal c := by
  have hFree : c ≠ '*' ∧ c ≠ '?' := by simpa [BeanName.isWildcard] using h
  rw [partOf, if_neg hFree.1, if_neg hFree.2]

/-- The parts of the expression for a pattern. -/
def parts (pattern : List Char) : List Part :=
  [.dotAll, .start] ++ pattern.map partOf ++ [.finish]

theorem text_partOf (library : RegexLibrary) (c : Char) :
    (partOf c).text library = translateChar library c := by
  unfold translateChar
  split
  · rfl
  · rfl
  · next hStar hMark =>
    rw [partOf, if_neg hStar, if_neg hMark]
    rfl

theorem foldl_translateChar (library : RegexLibrary) (pattern : List Char) (translated : String) :
    pattern.foldl (fun translated c => translated ++ translateChar library c) translated =
      translated ++ library.spell (pattern.map partOf) := by
  induction pattern generalizing translated with
  | nil => exact String.append_empty.symm
  | cons c pattern ih =>
    rw [List.foldl_cons, ih, List.map_cons, spell, text_partOf, String.append_assoc]

theorem translate_eq (library : RegexLibrary) (pattern : String) :
    translate library pattern = library.spell (parts pattern.toList) := by
  rw [translate, foldl_translateChar, parts, spell_append, spell_append]
  rfl

/-- With the flag for the dot, each part takes what the slot of its character takes. -/
theorem occur_iff_fits {begins : Bool} {pattern text : List Char} :
    Occur begins true (pattern.map partOf ++ [.finish]) text ↔
      Fits (pattern.map Slot.ofChar) text := by
  induction pattern generalizing begins text with
  | nil =>
    rw [List.map_nil, List.map_nil, fits_nil]
    exact and_iff_left trivial
  | cons c pattern ih =>
    rw [List.map_cons, List.map_cons, List.cons_append]
    by_cases hStar : c = '*'
    · subst hStar
      show (∃ run rest, text = run ++ rest ∧ _ ∧ Occur _ true _ rest) ↔ Fits (.run :: _) text
      rw [fits_cons]
      constructor
      · rintro ⟨run, rest, rfl, -, hRest⟩
        exact ⟨run, rest, trivial, ih.mp hRest, rfl⟩
      · rintro ⟨run, rest, -, hRest, rfl⟩
        exact ⟨run, rest, rfl, .inl rfl, ih.mpr hRest⟩
    · by_cases hMark : c = '?'
      · subst hMark
        show (∃ d rest, text = d :: rest ∧ _ ∧ Occur false true _ rest) ↔ Fits (.one :: _) text
        rw [fits_one_cons]
        constructor
        · rintro ⟨d, rest, rfl, -, hRest⟩
          exact ⟨d, rest, rfl, ih.mp hRest⟩
        · rintro ⟨d, rest, rfl, hRest⟩
          exact ⟨d, rest, rfl, .inl rfl, ih.mpr hRest⟩
      · have hPart : partOf c = .literal c := by rw [partOf, if_neg hStar, if_neg hMark]
        have hOnly : Slot.ofChar c = .only c := by rw [Slot.ofChar, if_neg hStar, if_neg hMark]
        rw [hPart, hOnly, fits_only_cons]
        show (∃ rest, text = c :: rest ∧ Occur false true _ rest) ↔ _
        simp only [ih]

/-- The anchors leave nothing of the text over. -/
theorem found_parts_iff {pattern text : List Char} :
    Found (parts pattern) text ↔ Fits (pattern.map Slot.ofChar) text := by
  show (∃ before rest, text = before ++ rest ∧ before.isEmpty = true ∧
    Occur before.isEmpty true (pattern.map partOf ++ [.finish]) rest) ↔ _
  constructor
  · rintro ⟨before, rest, rfl, hBegins, hRest⟩
    obtain rfl : before = [] := List.isEmpty_iff.mp hBegins
    exact occur_iff_fits.mp hRest
  · exact fun h => ⟨[], text, rfl, rfl, occur_iff_fits.mpr h⟩

section Library

variable {library : RegexLibrary} {pattern : String}

theorem isMatchBy_eq_true_iff (h : library.Documented) (hCompiles : library.Compiles pattern)
    (text : String) : isMatchBy library pattern text = true ↔
      Fits (pattern.toList.map Slot.ofChar) text.toList := by
  obtain ⟨expression, hExpression⟩ := Option.isSome_iff_exists.mp hCompiles
  have hFinds : isMatchBy library pattern text = library.finds expression text := by
    rw [isMatchBy, hExpression, Option.any_some]
  rw [translate_eq] at hExpression
  rw [hFinds, h _ _ hExpression, found_parts_iff]

theorem isMatchBy_eq_isMatch (h : library.Documented) (hCompiles : library.Compiles pattern)
    (text : String) : isMatchBy library pattern text = isMatch pattern.toList text.toList := by
  rw [Bool.eq_iff_iff, isMatchBy_eq_true_iff h hCompiles, isMatch_iff_fits]

theorem isMatchBy_self (h : library.Documented) (hCompiles : library.Compiles pattern) :
    isMatchBy library pattern pattern = true := by
  rw [isMatchBy_eq_isMatch h hCompiles, isMatch_self]

/-- Nothing matches an expression that does not compile. -/
theorem isMatchBy_of_not_compiles (h : ¬library.Compiles pattern) (text : String) :
    isMatchBy library pattern text = false := by
  rw [isMatchBy, Option.not_isSome_iff_eq_none.mp h, Option.any_none]

end Library

/-- Through a library that does as documented, a pattern matches the texts that fall into pieces, one
behind the other, that its characters stand for, and these are what the matcher by rows finds. -/
theorem isMatchBy_iff_fits (library : RegexLibrary) (h : library.Documented) (pattern text : String)
    (hCompiles : (library.compile? (translate library pattern)).isSome = true) :
    (isMatchBy library pattern text = true ↔
      ∃ pieces : List (List Char),
        List.Forall₂ Slot.Takes (pattern.toList.map Slot.ofChar) pieces ∧
          pieces.flatten = text.toList) ∧
    isMatchBy library pattern text = isMatch pattern.toList text.toList := by
  exact ⟨isMatchBy_eq_true_iff h hCompiles text, isMatchBy_eq_isMatch h hCompiles text⟩

/-- Runs that lie side by side, a line feed in the text, and what is no metacharacter here. -/
theorem isMatchBy_iff_fits_of_ofParts :
    ofParts.Documented ∧ translate ofParts "a.**?" = "(?s)^a\\..*.*.$" ∧
      (ofParts.compile? (translate ofParts "a.**?")).isSome = true ∧
      isMatchBy ofParts "a.**?" "a.\n日" = true ∧ isMatchBy ofParts "a.**?" "ab日" = false := by
  have hCompiles : (ofParts.compile? (translate ofParts "a.**?")).isSome = true := by decide +kernel
  refine ⟨documented_ofParts, by decide +kernel, hCompiles, ?_, ?_⟩
  · rw [(isMatchBy_iff_fits ofParts documented_ofParts "a.**?" "a.\n日" hCompiles).2]
    decide +kernel
  · rw [(isMatchBy_iff_fits ofParts documented_ofParts "a.**?" "ab日" hCompiles).2]
    decide +kernel

end Glob

/-! ### The library for patterns -/

namespace RegexLibrary

theorem patternEnd?_eq_some_iff {parts : List Part} {pattern : List Char} :
    patternEnd? parts = some pattern ↔ parts = pattern.map Glob.partOf ++ [.finish] := by
  constructor
  · intro h
    fun_induction patternEnd? parts generalizing pattern with
    | case1 => obtain rfl := Option.some.inj h; rfl
    | case2 parts ih | case3 parts ih =>
      obtain ⟨rest, hRest, rfl⟩ := Option.map_eq_some_iff.mp h
      rw [ih hRest]
      rfl
    | case4 | case6 => cases h
    | case5 c parts hWildcard ih =>
      obtain ⟨rest, hRest, rfl⟩ := Option.map_eq_some_iff.mp h
      rw [ih hRest, List.map_cons, Glob.partOf_of_not_isWildcard (Bool.eq_false_iff.mpr hWildcard)]
      rfl
  · rintro rfl
    induction pattern with
    | nil => rfl
    | cons c pattern ih =>
      rw [List.map_cons, List.cons_append]
      by_cases hStar : c = '*'
      · subst hStar
        exact congrArg (Option.map _) ih
      · by_cases hMark : c = '?'
        · subst hMark
          exact congrArg (Option.map _) ih
        · have hWildcard : BeanName.isWildcard c = false := by
            simp [BeanName.isWildcard, hStar, hMark]
          rw [Glob.partOf_of_not_isWildcard hWildcard, patternEnd?,
            if_neg (Bool.eq_false_iff.mp hWildcard), ih]
          rfl

theorem pattern?_eq_some_iff {parts : List Part} {pattern : List Char} :
    pattern? parts = some pattern ↔ parts = Glob.parts pattern := by
  constructor
  · intro h
    unfold pattern? at h
    split at h
    · rw [patternEnd?_eq_some_iff.mp h]
      rfl
    · cases h
  · rintro rfl
    exact patternEnd?_eq_some_iff.mpr rfl

theorem compile?_ofPatterns (parts : List Part) : ofPatterns.compile? (ofPatterns.spell parts) =
    if parts.length ≤ maxParts then pattern? parts else none := by
  show ((readParts [] _).filter _).bind pattern? = _
  rw [readParts_spell rfl, List.reverse_nil, List.nil_append, Option.filter_some]
  split
  · next hParts => rw [if_pos (by simpa using hParts)]; rfl
  · next hParts => rw [if_neg (by simpa using hParts)]; rfl

theorem documented_ofPatterns : ofPatterns.Documented := by
  intro parts pattern hCompiles text
  rw [compile?_ofPatterns] at hCompiles
  split at hCompiles
  · obtain rfl : parts = Glob.parts pattern := pattern?_eq_some_iff.mp hCompiles
    exact Glob.isMatch_iff_fits.trans Glob.found_parts_iff.symm
  · cases hCompiles

/-- Patterns compile up to a length. -/
theorem compiles_ofPatterns_iff {pattern : String} :
    ofPatterns.Compiles pattern ↔ pattern.toList.length + 3 ≤ maxParts := by
  have hLength : (Glob.parts pattern.toList).length = pattern.toList.length + 3 := by
    simp [Glob.parts]
  rw [Compiles, Glob.translate_eq, compile?_ofPatterns, pattern?_eq_some_iff.mpr rfl, hLength]
  split
  · next hParts => exact iff_of_true rfl hParts
  · next hParts => exact iff_of_false Bool.false_ne_true hParts

end RegexLibrary

end BeanBridge
