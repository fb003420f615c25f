import BeanBridge.Proofs.BeanName.Parsing

/-! A text has one spelling at most, since each part tells where it ends.  With this, what is read
of a text is known from its spelling alone. -/

namespace BeanBridge.BeanName

theorem QuotedPart.eq_of_text_append {part other : QuotedPart} (h : part.WellFormed)
    (hOther : other.WellFormed) {behind behindOther : List Char}
    (hEq : part.text ++ behind = other.text ++ behindOther) :
    part = other ∧ behind = behindOther := by
  -- No part begins with a quote, and only an escape begins with a backslash.
  cases part <;> cases other <;> simp_all [QuotedPart.text, QuotedPart.WellFormed]
  exact hOther.2.1 hEq.1.symm

theorem parts_eq_of_text {parts others : List QuotedPart} (h : ∀ part ∈ parts, part.WellFormed)
    (hOthers : ∀ part ∈ others, part.WellFormed)
    (hEq : parts.flatMap QuotedPart.text ++ ['"'] = others.flatMap QuotedPart.text ++ ['"']) :
    parts = others := by
  have hQuote {part : QuotedPart} (hPart : part.WellFormed) (text : List Char) :
      part.text ++ text ≠ ['"'] := by
    cases part <;> simp_all [QuotedPart.text, QuotedPart.WellFormed]
  induction parts generalizing others with
  | nil =>
    cases others with
    | nil => rfl
    | cons other others =>
      rw [List.flatMap_cons, List.append_assoc] at hEq
      exact absurd hEq.symm (hQuote (hOthers other (by simp)) _)
  | cons part parts ih =>
    obtain ⟨hPart, hParts⟩ := List.forall_mem_cons.mp h
    cases others with
    | nil =>
      rw [List.flatMap_cons, List.append_assoc] at hEq
      exact absurd hEq (hQuote hPart _)
    | cons other others =>
      obtain ⟨hOther, hRest⟩ := List.forall_mem_cons.mp hOthers
      simp only [List.flatMap_cons, List.append_assoc] at hEq
      obtain ⟨rfl, hTail⟩ := part.eq_of_text_append hPart hOther hEq
      rw [ih hParts hRest hTail]

theorem SpelledValue.eq_of_text {value other : SpelledValue} (h : value.WellFormed)
    (hOther : other.WellFormed) (hEq : value.text = other.text) : value = other := by
  have hBare {text : List Char} {parts : List QuotedPart} (hText : (bare text).WellFormed) :
      (bare text).text ≠ (quoted parts).text := by
    rintro hEq
    have hQuote : '"' ∈ text := by
      rw [show text = _ from hEq]
      simp [SpelledValue.text]
    exact hText.2 '"' hQuote (by simp)
  cases value with
  | bare text =>
    cases other with
    | bare other => exact congrArg bare hEq
    | quoted parts => exact absurd hEq (hBare h)
  | quoted parts =>
    cases other with
    | bare other => exact absurd hEq.symm (hBare hOther)
    | quoted others => exact congrArg quoted (parts_eq_of_text h hOther (List.cons.inj hEq).2)

/-- A clause is known from its key and from its value as written. -/
theorem Clause.eq_of_pair {clause other : Clause} (h : clause.WellFormed)
    (hOther : other.WellFormed) (hKey : clause.property.key = other.property.key)
    (hValue : clause.property.value = other.property.value) : clause = other := by
  obtain ⟨key, value⟩ := clause
  obtain ⟨otherKey, otherValue⟩ := other
  obtain rfl : key = otherKey := String.ofList_inj.mp hKey
  have hText : value.text = otherValue.text := String.ofList_inj.mp hValue
  exact congrArg (Clause.mk key) (SpelledValue.eq_of_text h.value hOther.value hText)

theorem SpelledEntry.eq_of_text_append {entry other : SpelledEntry} (h : entry.WellFormed)
    (hOther : other.WellFormed) {behind behindOther : List Char} (hEnd : atEntryEnd behind = true)
    (hEndOther : atEntryEnd behindOther = true)
    (hEq : entry.text ++ behind = other.text ++ behindOther) :
    entry = other ∧ behind = behindOther := by
  have hStar {clause : Clause} (hClause : clause.WellFormed) (text rest : List Char) :
      '*' :: text ≠ clause.text ++ rest := by
    obtain ⟨c, front, hText, hNe, -⟩ := clause.exists_text_eq_cons hClause
    rw [hText]
    exact fun hEq => hNe (List.cons.inj hEq).1.symm
  cases entry with
  | star =>
    cases other with
    | star => exact ⟨rfl, (List.cons.inj hEq).2⟩
    | clause other => exact absurd hEq (hStar hOther _ _)
  | clause clause =>
    cases other with
    | star => exact absurd hEq.symm (hStar h _ _)
    | clause other =>
      have hRead := readProperty_text h hEnd
      rw [show clause.text ++ behind = other.text ++ behindOther from hEq,
        readProperty_text hOther hEndOther] at hRead
      obtain ⟨hProperty, rfl⟩ := Prod.mk.inj (Except.ok.inj hRead)
      refine ⟨congrArg _ (Clause.eq_of_pair h hOther ?_ ?_), rfl⟩
      · rw [hProperty]
      · rw [hProperty]

theorem entries_eq_of_text {entries others : List SpelledEntry}
    (h : ∀ entry ∈ entries, entry.WellFormed) (hOthers : ∀ entry ∈ others, entry.WellFormed)
    (hEq : moreEntries entries = moreEntries others) : entries = others := by
  induction entries generalizing others with
  | nil =>
    cases others with
    | nil => rfl
    | cons other others => cases hEq
  | cons entry entries ih =>
    cases others with
    | nil => cases hEq
    | cons other others =>
      obtain ⟨hEntry, hEntries⟩ := List.forall_mem_cons.mp h
      obtain ⟨hOther, hRest⟩ := List.forall_mem_cons.mp hOthers
      obtain ⟨rfl, hTail⟩ := entry.eq_of_text_append hEntry hOther (atEntryEnd_moreEntries entries)
        (atEntryEnd_moreEntries others) (List.cons.inj hEq).2
      rw [ih hEntries hRest hTail]

/-- Entries are known from their text, with nothing before them. -/
theorem entries_eq_of_intercalate {entries others : List SpelledEntry}
    (h : ∀ entry ∈ entries, entry.WellFormed) (hOthers : ∀ entry ∈ others, entry.WellFormed)
    (hEq : [','].intercalate (entries.map SpelledEntry.text) =
      [','].intercalate (others.map SpelledEntry.text)) : entries = others := by
  have hNe {entry : SpelledEntry} {entries : List SpelledEntry} (hEntry : entry.WellFormed) :
      [','].intercalate ((entry :: entries).map SpelledEntry.text) ≠ [] := by
    rw [intercalate_entries]
    exact List.append_ne_nil_of_left_ne_nil (entry.text_ne_nil hEntry) _
  cases entries with
  | nil =>
    cases others with
    | nil => rfl
    | cons other others => exact absurd hEq.symm (hNe (hOthers other (by simp)))
  | cons entry entries =>
    cases others with
    | nil => exact absurd hEq (hNe (h entry (by simp)))
    | cons other others =>
      rw [intercalate_entries, intercalate_entries] at hEq
      exact entries_eq_of_text h hOthers (congrArg (',' :: ·) hEq)

theorem Spelling.eq_of_text {spelling other : Spelling} (h : spelling.WellFormed)
    (hOther : other.WellFormed) (hEq : spelling.text = other.text) : spelling = other := by
  obtain ⟨domain, entries⟩ := spelling
  obtain ⟨otherDomain, others⟩ := other
  have hSplit := splitAt?_append h.colon ([','].intercalate (entries.map SpelledEntry.text))
  rw [show domain ++ ':' :: _ = _ from hEq, Spelling.text, splitAt?_append hOther.colon] at hSplit
  obtain ⟨rfl, hEntries⟩ := Prod.mk.inj (Option.some.inj hSplit)
  exact congrArg (Spelling.mk _) (entries_eq_of_intercalate h.entries hOther.entries hEntries.symm)

/-- Every text is answered for.  Either it has a spelling, that is its only one, and it is read as
the name spelled; or it has none, and a flaw is reported. -/
theorem parse_reads_spellings (text : String) :
    (∃ spelling : Spelling, spelling.Spells text ∧ parse text = .ok spelling.name ∧
      ∀ other : Spelling, other.Spells text → other = spelling) ∨
    ((¬∃ spelling : Spelling, spelling.Spells text) ∧ ∃ flaw, parse text = .error flaw) := by
  cases hParse : parse text with
  | ok name =>
    obtain ⟨spelling, hSpells, rfl⟩ := spelling_of_parse hParse
    refine .inl ⟨spelling, hSpells, rfl, fun other hOther => ?_⟩
    exact Spelling.eq_of_text hOther.1 hSpells.1 (hOther.2.trans hSpells.2.symm)
  | error flaw =>
    refine .inr ⟨?_, flaw, rfl⟩
    rintro ⟨spelling, hSpells⟩
    cases hParse.symm.trans (parse_of_spells hSpells)

/-- Separators and an escaped star within quotes, a lone star in the middle, a bare wildcard. -/
theorem parse_reads_spellings_quoted :
    let text := "d*:k=\"a,=\\*\",*,t=x?"
    let spelling : Spelling := ⟨['d', '*'],
      [.clause ⟨['k'], .quoted [.plain 'a', .plain ',', .plain '=', .escaped '*']⟩, .star,
        .clause ⟨['t'], .bare ['x', '?']⟩]⟩
    spelling.Spells text ∧
      parse text = .ok ⟨"d*", [⟨"k", "\"a,=\\*\"", false⟩, ⟨"t", "x?", true⟩], true⟩ ∧
      ∀ other : Spelling, other.Spells text → other = spelling := by
  intro text spelling
  have hSpells : spelling.Spells text := by decide +kernel
  obtain ⟨found, hFound, hParse, hOnly⟩ :=
    (parse_reads_spellings text).resolve_right fun h => h.1 ⟨spelling, hSpells⟩
  obtain rfl := hOnly spelling hSpells
  exact ⟨hSpells, hParse, hOnly⟩

end BeanBridge.BeanName
