import BeanBridge.Proofs.BeanName.SetSelection

/-! Escapes in quoted values.  The reader takes a star or a question mark behind a backslash for
itself, and tells whether there are others.  If there are, the matcher takes all of the text for a
pattern, with the escaped ones as wildcards behind literal backslashes.  So a value that has both
kinds admits more than it asks for, and one of a single kind just what it asks for. -/

namespace BeanBridge.BeanName

open Glob

variable {library : RegexLibrary}

/-- What a value in quotes asks for: a backslash and the character behind it take themselves. -/
def quotedSlots : List Char → List Slot
  | '\\' :: c :: text => .only '\\' :: .only c :: quotedSlots text
  | c :: text => .ofChar c :: quotedSlots text
  | [] => []

/-- The slot takes a star or a question mark, as an escaped one does. -/
def takesWildcard : Slot → Bool
  | .only c => isWildcard c
  | .run | .one => false

/-- There are wildcards among the slots, and escaped ones. -/
def mixed (slots : List Slot) : Bool := slots.any Slot.isWild && slots.any takesWildcard

/-- The bean has a value for the key that fits. -/
def HasFitting (bean : BeanName) (key : String) (slots : List Slot) : Prop :=
  ∃ value, bean.value? key = some value ∧ Fits slots value.toList

/-! ### The slots of a quoted value -/

theorem quotedSlots_eq_only {text : List Char}
    (h : ∀ slot ∈ quotedSlots text, slot.isWild = false) : quotedSlots text = text.map .only := by
  fun_induction quotedSlots text with
  | case1 c text ih =>
    rw [ih fun slot hSlot => h slot (by simp [hSlot])]
    rfl
  | case2 c text _ ih =>
    obtain ⟨hFirst, hRest⟩ := List.forall_mem_cons.mp h
    rw [Slot.isWild_ofChar] at hFirst
    rw [ih hRest, Slot.ofChar_of_not_isWildcard hFirst]
    rfl
  | case3 => rfl

theorem quotedSlots_eq_ofChar {text : List Char}
    (h : ∀ slot ∈ quotedSlots text, takesWildcard slot = false) :
    quotedSlots text = text.map .ofChar := by
  fun_induction quotedSlots text with
  | case1 c text ih =>
    obtain ⟨hSecond, hRest⟩ := List.forall_mem_cons.mp (List.forall_mem_cons.mp h).2
    rw [ih hRest, List.map_cons, List.map_cons, Slot.ofChar_of_not_isWildcard hSecond]
    rfl
  | case2 c text _ ih =>
    rw [ih (List.forall_mem_cons.mp h).2]
    rfl
  | case3 => rfl

/-- Every value fits what it asks for. -/
theorem fits_quotedSlots_self (text : List Char) : Fits (quotedSlots text) text := by
  refine fits_of_forall₂ ?_
  fun_induction quotedSlots text with
  | case1 c text ih => exact .cons rfl (.cons rfl ih)
  | case2 c text _ ih => exact .cons (Slot.ofChar_takes (.inr rfl)) ih
  | case3 => exact .nil

/-- Taken for a pattern the text asks for less. -/
theorem within_quotedSlots (text : List Char) :
    List.Forall₂ Slot.Within (quotedSlots text) (text.map .ofChar) := by
  have hOnly (c : Char) : (Slot.only c).Within (.ofChar c) := by
    rintro _ rfl
    exact Slot.ofChar_takes (.inr rfl)
  fun_induction quotedSlots text with
  | case1 c text ih => exact .cons (hOnly '\\') (.cons (hOnly c) ih)
  | case2 c text _ ih => exact .cons (fun _ => id) ih
  | case3 => exact .nil

theorem any_isWild_part {part : QuotedPart} (h : part.WellFormed) (text : List Char) :
    (quotedSlots (part.text ++ text)).any Slot.isWild =
      (part.isWildcard || (quotedSlots text).any Slot.isWild) := by
  cases part with
  | escaped c => rfl
  | plain c =>
    have hBackslash : c ≠ '\\' := by rintro rfl; simp [QuotedPart.WellFormed] at h
    have hSlots : quotedSlots (c :: text) = .ofChar c :: quotedSlots text :=
      quotedSlots.eq_2 c text fun d rest hEq => absurd hEq hBackslash
    show (quotedSlots (c :: text)).any Slot.isWild = _
    rw [hSlots, List.any_cons, Slot.isWild_ofChar]
    rfl

/-- The reader tells whether there are wildcards among the slots. -/
theorem hasWildcard_quoted {parts : List QuotedPart} (h : ∀ part ∈ parts, part.WellFormed) :
    (SpelledValue.quoted parts).hasWildcard =
      (quotedSlots (SpelledValue.quoted parts).text).any Slot.isWild := by
  show parts.any QuotedPart.isWildcard =
    (quotedSlots ('"' :: (parts.flatMap QuotedPart.text ++ ['"']))).any Slot.isWild
  rw [quotedSlots.eq_2 _ _ (by simp), List.any_cons]
  induction parts with
  | nil => rfl
  | cons part parts ih =>
    obtain ⟨hPart, hParts⟩ := List.forall_mem_cons.mp h
    rw [List.flatMap_cons, List.append_assoc, any_isWild_part hPart, List.any_cons, ih hParts]
    exact Bool.or_left_comm _ _ _

/-! ### What is admitted -/

theorem exists_clause {spelling : Spelling} {wanted : Property} (h : spelling.WellFormed)
    (hWanted : wanted ∈ spelling.name.properties) :
    ∃ clause ∈ spelling.clauses, clause.WellFormed ∧ clause.property = wanted := by
  obtain ⟨clause, hClause, hEq⟩ := List.mem_map.mp hWanted
  exact ⟨clause, hClause, h.clause hClause, hEq⟩

/-- Only quoted values begin with a quote. -/
theorem exists_parts {clause : Clause} (h : clause.WellFormed)
    (hQuoted : clause.property.value.toList.head? = some '"') :
    ∃ parts, clause.value = .quoted parts ∧ ∀ part ∈ parts, part.WellFormed := by
  obtain ⟨key, value⟩ := clause
  cases value with
  | quoted parts => exact ⟨parts, rfl, h.value⟩
  | bare text =>
    have hQuote : '"' ∈ text :=
      List.mem_of_mem_head? (by simpa [Clause.property, SpelledValue.text] using hQuoted)
    exact absurd (by simp) (h.value.2 '"' hQuote)

theorem wildcard_eq_any_isWild {spelling : Spelling} (h : spelling.WellFormed) {wanted : Property}
    (hWanted : wanted ∈ spelling.name.properties)
    (hQuoted : wanted.value.toList.head? = some '"') :
    wanted.wildcard = (quotedSlots wanted.value.toList).any Slot.isWild := by
  obtain ⟨clause, -, hClause, rfl⟩ := exists_clause h hWanted
  obtain ⟨parts, hValue, hParts⟩ := exists_parts hClause hQuoted
  rw [Clause.property, hValue, String.toList_ofList]
  exact hasWildcard_quoted hParts

theorem admits_of_fits (hLibrary : library.Documented) {wanted : Property}
    (hCompiles : wanted.CompilesBy library) {value : String}
    (hWildcard : wanted.wildcard = (quotedSlots wanted.value.toList).any Slot.isWild)
    (hFits : Fits (quotedSlots wanted.value.toList) value.toList) :
    wanted.admits value library = true := by
  rw [Property.admits_iff_allows hLibrary hCompiles]
  cases hWild : wanted.wildcard with
  | true =>
    have hMatch := isMatchBy_eq_true_iff hLibrary (hCompiles hWild) value
    exact .inr ⟨hWild, hMatch.mpr (hFits.mono (within_quotedSlots _))⟩
  | false =>
    have hNone : ∀ slot ∈ quotedSlots wanted.value.toList, slot.isWild = false := by
      simpa using hWildcard.symm.trans hWild
    rw [quotedSlots_eq_only hNone, fits_literal] at hFits
    exact .inl (String.toList_inj.mp hFits)

/-- With wildcards of one kind alone, what is admitted fits. -/
theorem fits_of_admits (hLibrary : library.Documented) {wanted : Property}
    (hCompiles : wanted.CompilesBy library) {value : String}
    (hWildcard : wanted.wildcard = (quotedSlots wanted.value.toList).any Slot.isWild)
    (hMixed : mixed (quotedSlots wanted.value.toList) = false)
    (h : wanted.admits value library = true) :
    Fits (quotedSlots wanted.value.toList) value.toList := by
  rcases Property.Allows.of_admits h with rfl | ⟨hWild, hMatch⟩
  · exact fits_quotedSlots_self _
  · have hNone : ∀ slot ∈ quotedSlots wanted.value.toList, takesWildcard slot = false := by
      simpa [mixed, ← hWildcard, hWild] using hMixed
    rw [quotedSlots_eq_ofChar hNone]
    exact (isMatchBy_eq_true_iff hLibrary (hCompiles hWild) value).mp hMatch

/-! ### What is admitted by mistake -/

/-- A part like this one, but without a wildcard, escaped or not. -/
def QuotedPart.tamed : QuotedPart → QuotedPart
  | plain c => plain (if BeanName.isWildcard c then 'x' else c)
  | escaped c => escaped (if BeanName.isWildcard c then 'n' else c)

/-- A value with wildcards in quotes loses them and the escaped ones. -/
def SpelledValue.tamed : SpelledValue → SpelledValue
  | bare text => bare text
  | quoted parts => quoted (if parts.any QuotedPart.isWildcard then parts.map .tamed else parts)

def Clause.tamed (clause : Clause) : Clause := ⟨clause.key, clause.value.tamed⟩

def SpelledEntry.tamed : SpelledEntry → SpelledEntry
  | star => star
  | clause c => clause c.tamed

def Spelling.tamed (spelling : Spelling) : Spelling :=
  ⟨spelling.domain, spelling.entries.map .tamed⟩

theorem QuotedPart.WellFormed.tamed {part : QuotedPart} (h : part.WellFormed) :
    part.tamed.WellFormed := by
  cases part with
  | plain c =>
    show (if _ then _ else _) ∉ _
    split
    · decide
    · exact h
  | escaped c =>
    show (if _ then _ else _) ∈ _
    split
    · decide
    · exact h

theorem QuotedPart.isWildcard_of_mem_tamed (part : QuotedPart) :
    ∀ c ∈ part.tamed.text, BeanName.isWildcard c = false := by
  have hLetter {d e : Char} (hd : BeanName.isWildcard d = false) :
      BeanName.isWildcard (if BeanName.isWildcard e then d else e) = false := by
    split
    · exact hd
    · next h => exact Bool.eq_false_iff.mpr h
  cases part with
  | plain c => exact List.forall_mem_singleton.mpr (hLetter (by decide))
  | escaped c =>
    exact List.forall_mem_cons.mpr
      ⟨by decide, List.forall_mem_singleton.mpr (hLetter (by decide))⟩

/-- Wildcards aside the text of a tamed part is that of the part. -/
theorem QuotedPart.forall₂_tamed (part : QuotedPart) :
    List.Forall₂ (fun c d => BeanName.isWildcard c = true ∨ c = d) part.text part.tamed.text := by
  have hLetter (c d : Char) : BeanName.isWildcard c = true ∨
      c = if BeanName.isWildcard c then d else c := by
    split
    · next h => exact .inl h
    · exact .inr rfl
  cases part with
  | plain c => exact .cons (hLetter c 'x') .nil
  | escaped c => exact .cons (.inr rfl) (.cons (hLetter c 'n') .nil)

theorem SpelledValue.forall₂_tamed (parts : List QuotedPart) :
    List.Forall₂ (fun c d => BeanName.isWildcard c = true ∨ c = d)
      (quoted parts).text (quoted (parts.map .tamed)).text := by
  refine .cons (.inr rfl) (List.rel_append ?_ (.cons (.inr rfl) .nil))
  rw [List.flatMap_map]
  induction parts with
  | nil => exact .nil
  | cons part parts ih => exact List.rel_append part.forall₂_tamed ih

theorem SpelledValue.isWildcard_of_mem_tamed {parts : List QuotedPart}
    (h : parts.any QuotedPart.isWildcard = true) :
    ∀ c ∈ (quoted parts).tamed.text, BeanName.isWildcard c = false := by
  have hTamed : (quoted parts).tamed.text =
      '"' :: ((parts.map QuotedPart.tamed).flatMap QuotedPart.text ++ ['"']) := by
    rw [tamed, if_pos h]
    rfl
  intro c hc
  rw [hTamed, List.mem_cons, List.mem_append, List.mem_flatMap, List.mem_singleton] at hc
  rcases hc with rfl | ⟨_, hPart, hc⟩ | rfl
  · decide
  · obtain ⟨part, -, rfl⟩ := List.mem_map.mp hPart
    exact part.isWildcard_of_mem_tamed c hc
  · decide

theorem SpelledValue.WellFormed.tamed {value : SpelledValue} (h : value.WellFormed) :
    value.tamed.WellFormed := by
  cases value with
  | bare text => exact h
  | quoted parts =>
    show ∀ part ∈ (if parts.any QuotedPart.isWildcard then parts.map .tamed else parts),
      part.WellFormed
    split
    · exact List.forall_mem_map.mpr fun part hPart => (h part hPart).tamed
    · exact h

/-- A value admits what it is tamed to. -/
theorem Clause.allows_tamed (hLibrary : library.Documented) (clause : Clause)
    (hCompiles : clause.property.CompilesBy library) :
    clause.property.Allows library clause.tamed.property.value := by
  obtain ⟨key, value⟩ := clause
  cases value with
  | bare text => exact .inl rfl
  | quoted parts =>
    by_cases hWild : parts.any QuotedPart.isWildcard = true
    · have hMatch := isMatchBy_eq_true_iff hLibrary (hCompiles hWild)
      refine .inr ⟨hWild, (hMatch _).mpr (fits_of_forall₂ ?_)⟩
      simp only [Clause.property, Clause.tamed, SpelledValue.tamed, if_pos hWild,
        String.toList_ofList]
      rw [List.forall₂_map_left_iff]
      exact (SpelledValue.forall₂_tamed parts).imp fun _ _ => Slot.ofChar_takes
    · refine .inl ?_
      rw [Clause.property, Clause.property, Clause.tamed, SpelledValue.tamed, if_neg hWild]

theorem Spelling.clauses_tamed (spelling : Spelling) :
    spelling.tamed.clauses = spelling.clauses.map .tamed := by
  rw [clauses, clauses, tamed]
  induction spelling.entries with
  | nil => rfl
  | cons entry entries ih => cases entry <;> simp [SpelledEntry.clauses, SpelledEntry.tamed, ih]

theorem Spelling.count_star_tamed (spelling : Spelling) :
    spelling.tamed.entries.count .star = spelling.entries.count .star := by
  rw [tamed]
  induction spelling.entries with
  | nil => rfl
  | cons entry entries ih => cases entry <;> simp [SpelledEntry.tamed, ih]

theorem Spelling.WellFormed.tamed {spelling : Spelling} (h : spelling.WellFormed) :
    spelling.tamed.WellFormed where
  domain := h.domain
  entries_ne_nil := by simpa [Spelling.tamed] using h.entries_ne_nil
  entries := by
    refine List.forall_mem_map.mpr fun entry hEntry => ?_
    cases entry with
    | star => trivial
    | clause clause =>
      have hClause := h.entries _ hEntry
      exact ⟨hClause.key_ne_nil, hClause.key_free, hClause.value.tamed⟩
  star := spelling.count_star_tamed ▸ h.star
  keys := by
    rw [Spelling.clauses_tamed, List.map_map]
    exact h.keys

/-- A pattern selects what it is tamed to. -/
theorem Spelling.selectsAsSets_tamed (hLibrary : library.Documented) (spelling : Spelling)
    (hCompiles : spelling.name.CompilesBy library) :
    spelling.name.SelectsAsSets library (Property.Allows library) spelling.tamed.name where
  domain := isMatchBy_self hLibrary hCompiles.domain
  properties := by
    refine List.forall_mem_map.mpr fun clause hClause => ?_
    have hAllows := clause.allows_tamed hLibrary
      (hCompiles.properties _ (List.mem_map_of_mem hClause))
    refine ⟨clause.tamed.property, List.mem_map_of_mem ?_, rfl, hAllows⟩
    rw [Spelling.clauses_tamed]
    exact List.mem_map_of_mem hClause
  keys := by
    have hKeys : spelling.tamed.name.keys = spelling.name.keys := by
      simp only [BeanName.keys, name, Spelling.clauses_tamed, List.map_map]
      rfl
    exact .inr fun key => hKeys ▸ Iff.rfl

/-- Where a pattern has wildcards in quotes, a bean it is tamed to has no value with a wildcard. -/
theorem Spelling.not_hasFitting_tamed {spelling : Spelling} (h : spelling.WellFormed)
    {wanted : Property} (hWanted : wanted ∈ spelling.name.properties)
    (hQuoted : wanted.value.toList.head? = some '"')
    (hMixed : mixed (quotedSlots wanted.value.toList) = true) :
    ¬spelling.tamed.name.HasFitting wanted.key (quotedSlots wanted.value.toList) := by
  obtain ⟨hWild, hEscaped⟩ := Bool.and_eq_true_iff.mp hMixed
  rw [← wildcard_eq_any_isWild h hWanted hQuoted] at hWild
  obtain ⟨clause, hMem, hClause, rfl⟩ := exists_clause h hWanted
  obtain ⟨parts, hParts, -⟩ := exists_parts hClause hQuoted
  have hAny : parts.any QuotedPart.isWildcard = true := by
    rwa [Clause.property, hParts] at hWild
  have hTamed : spelling.tamed.name.value? clause.property.key =
      some (String.ofList (SpelledValue.quoted parts).tamed.text) := by
    refine (value?_eq_some_iff h.tamed.nodup_keys).mpr (mem_pairs_name.mpr ⟨clause.tamed, ?_, ?_⟩)
    · rw [Spelling.clauses_tamed]
      exact List.mem_map_of_mem hMem
    · simp only [Clause.property, Clause.tamed, hParts]
  rintro ⟨value, hValue, hFits⟩
  obtain rfl := Option.some.inj (hTamed.symm.trans hValue)
  -- The slot of the escaped wildcard asks for a letter that the tamed value has lost.
  obtain ⟨slot, hSlot, hTakes⟩ := List.any_eq_true.mp hEscaped
  cases slot with
  | run | one => exact absurd hTakes Bool.false_ne_true
  | only c =>
    have hText := hFits.mem_of_only hSlot
    rw [String.toList_ofList] at hText
    exact Bool.false_ne_true ((SpelledValue.isWildcard_of_mem_tamed hAny c hText).symm.trans hTakes)

/-- As long as the expressions compile, a quoted value admits whatever fits it with its escapes.  It
admits nothing else unless it has wildcards and escaped ones; if it has both, it admits what fits it as
if none were escaped, and the pattern selects a bean whose value does not fit. -/
theorem escapes_hold_unless_mixed (hLibrary : library.Documented) {text : String}
    {pattern : BeanName} (h : parse text = .ok pattern) (hCompiles : pattern.CompilesBy library)
    {wanted : Property} (hWanted : wanted ∈ pattern.properties)
    (hQuoted : wanted.value.toList.head? = some '"') :
    let slots := quotedSlots wanted.value.toList
    let admitted := fun bean : BeanName =>
      (bean.value? wanted.key).any fun value => wanted.admits value library
    (∀ bean : BeanName, bean.HasFitting wanted.key slots → admitted bean = true) ∧
    (mixed slots = false → ∀ bean : BeanName,
      admitted bean = true ↔ bean.HasFitting wanted.key slots) ∧
    (mixed slots = true →
      (∀ bean : BeanName, admitted bean = true ↔
        bean.HasFitting wanted.key (wanted.value.toList.map .ofChar)) ∧
      ∃ textBean bean, parse textBean = .ok bean ∧ pattern.selects bean library = true ∧
        ¬bean.HasFitting wanted.key slots) := by
  intro slots admitted
  obtain ⟨spelling, ⟨hSpelling, -⟩, rfl⟩ := spelling_of_parse h
  have hWildcard := wildcard_eq_any_isWild hSpelling hWanted hQuoted
  have hValue := hCompiles.properties wanted hWanted
  have hAdmitted (bean : BeanName) (hFitting : bean.HasFitting wanted.key slots) :
      admitted bean = true := by
    obtain ⟨value, hFound, hFits⟩ := hFitting
    have hAdmits := admits_of_fits hLibrary hValue hWildcard hFits
    exact (Option.any_eq_true ..).mpr ⟨value, hFound, hAdmits⟩
  refine ⟨hAdmitted, fun hMixed bean => ⟨fun hAny => ?_, hAdmitted bean⟩, fun hMixed => ⟨?_, ?_⟩⟩
  · obtain ⟨value, hFound, hAdmits⟩ := (Option.any_eq_true ..).mp hAny
    exact ⟨value, hFound, fits_of_admits hLibrary hValue hWildcard hMixed hAdmits⟩
  · have hWild : wanted.wildcard = true := hWildcard.trans (Bool.and_eq_true_iff.mp hMixed).1
    intro bean
    simp only [admitted, Option.any_eq_true, Property.admits, if_pos hWild,
      isMatchBy_eq_true_iff hLibrary (hValue hWild)]
    exact Iff.rfl
  · -- The bean is the pattern itself, tamed.
    have hTamed := hSpelling.tamed
    have hParse : parse (String.ofList spelling.tamed.text) = .ok spelling.tamed.name :=
      parse_of_spells ⟨hTamed, (String.toList_ofList).symm⟩
    have hSelects := (selects_iff_selectsAsSets hLibrary hCompiles hSpelling.nodup_keys
      hTamed.nodup_keys).mpr (spelling.selectsAsSets_tamed hLibrary hCompiles)
    exact ⟨_, _, hParse, hSelects, Spelling.not_hasFitting_tamed hSpelling hWanted hQuoted hMixed⟩

/-- A value with wildcards and another escape, and one with a wildcard behind an escaped star. -/
theorem escapes_hold_unless_mixed_of_two :
    let text := "d:j=\"?\\n*\",k=\"a\\**\""
    let unmixed : Property := ⟨"j", "\"?\\n*\"", true⟩
    let both : Property := ⟨"k", "\"a\\**\"", true⟩
    let pattern : BeanName := ⟨"d", [unmixed, both], false⟩
    parse text = .ok pattern ∧ RegexLibrary.ofPatterns.Documented ∧
      pattern.CompilesBy .ofPatterns ∧
      (∀ bean : BeanName, ((bean.value? "j").any fun value => unmixed.admits value) = true ↔
        bean.HasFitting "j" [.only '"', .one, .only '\\', .only 'n', .run, .only '"']) ∧
      ∃ textBean bean, parse textBean = .ok bean ∧ pattern.selects bean = true ∧
        ¬bean.HasFitting "k" [.only '"', .only 'a', .only '\\', .only '*', .run, .only '"'] := by
  intro text unmixed both pattern
  have hSpells : Spelling.Spells ⟨['d'], [.clause ⟨['j'], .quoted [.plain '?', .escaped 'n',
      .plain '*']⟩, .clause ⟨['k'], .quoted [.plain 'a', .escaped '*', .plain '*']⟩]⟩ text := by
    decide +kernel
  have hParse : parse text = .ok pattern := parse_of_spells hSpells
  have hFirst : unmixed ∈ pattern.properties := List.mem_cons_self
  have hSecond : both ∈ pattern.properties := List.mem_cons_of_mem _ List.mem_cons_self
  have hLibrary := RegexLibrary.documented_ofPatterns
  have hCompiles : pattern.CompilesBy .ofPatterns := ⟨by decide +kernel, by decide +kernel⟩
  have hUnmixed := escapes_hold_unless_mixed hLibrary hParse hCompiles hFirst (by decide +kernel)
  have hBoth := escapes_hold_unless_mixed hLibrary hParse hCompiles hSecond (by decide +kernel)
  have hSlots : quotedSlots unmixed.value.toList =
      [.only '"', .one, .only '\\', .only 'n', .run, .only '"'] := by decide +kernel
  have hSlotsBoth : quotedSlots both.value.toList =
      [.only '"', .only 'a', .only '\\', .only '*', .run, .only '"'] := by decide +kernel
  rw [hSlots] at hUnmixed
  rw [hSlotsBoth] at hBoth
  exact ⟨hParse, hLibrary, hCompiles, hUnmixed.2.1 (by decide +kernel),
    (hBoth.2.2 (by decide +kernel)).2⟩

/-- An escaped star before a wildcard is taken for a backslash before anything. -/
theorem escaped_star_takes_other_letter :
    let wanted : Property := ⟨"k", "\"a\\**\"", true⟩
    let pattern : BeanName := ⟨"d", [wanted], false⟩
    let bean : BeanName := ⟨"d", [⟨"k", "\"a\\nb\"", false⟩], false⟩
    parse "d:k=\"a\\**\"" = .ok pattern ∧ parse "d:k=\"a\\nb\"" = .ok bean ∧
      wanted ∈ pattern.properties ∧ wanted.value.toList.head? = some '"' ∧
      pattern.selects bean = true ∧
      ((bean.value? wanted.key).any fun value => wanted.admits value) = true ∧
      ¬bean.HasFitting wanted.key (quotedSlots wanted.value.toList) := by
  intro wanted pattern bean
  have hSpells : Spelling.Spells ⟨['d'], [.clause ⟨['k'], .quoted [.plain 'a', .escaped '*',
      .plain '*']⟩]⟩ "d:k=\"a\\**\"" := by decide +kernel
  have hSpellsBean : Spelling.Spells ⟨['d'], [.clause ⟨['k'], .quoted [.plain 'a', .escaped 'n',
      .plain 'b']⟩]⟩ "d:k=\"a\\nb\"" := by decide +kernel
  have hFree : '*' ∉ "\"a\\nb\"".toList := by decide +kernel
  refine ⟨parse_of_spells hSpells, parse_of_spells hSpellsBean, List.mem_cons_self,
    by decide +kernel, by decide +kernel, by decide +kernel, ?_⟩
  rintro ⟨value, hValue, hFits⟩
  obtain ⟨-, rfl⟩ : "k" = wanted.key ∧ "\"a\\nb\"" = value := by simpa [bean, value?] using hValue
  exact hFree (hFits.mem_of_only (by decide +kernel))

end BeanBridge.BeanName
