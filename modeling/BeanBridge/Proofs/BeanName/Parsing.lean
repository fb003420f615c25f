import BeanBridge.Proofs.BeanName.Spelling

/-! Reading a bean name is the inverse of spelling it.  Each function of the reader is met from both
sides: it reads back what is spelled, with the text behind left over, and whatever it reads has been
spelled. -/

namespace BeanBridge.BeanName

/-! ### Separators and quotes -/

theorem splitAt?_append {c : Char} {before : List Char} (h : c ∉ before) (after : List Char) :
    splitAt? c (before ++ c :: after) = some (before, after) := by
  induction before with
  | nil => simp [splitAt?]
  | cons d before ih =>
    obtain ⟨hNe, hFree⟩ := List.ne_and_not_mem_of_not_mem_cons h
    rw [List.cons_append, splitAt?, if_neg (Ne.symm hNe), ih hFree]
    rfl

theorem eq_of_splitAt? {c : Char} {text before after : List Char}
    (h : splitAt? c text = some (before, after)) : c ∉ before ∧ text = before ++ c :: after := by
  induction text generalizing before with
  | nil => simp [splitAt?] at h
  | cons d text ih =>
    rw [splitAt?] at h
    split at h
    · next hd =>
      obtain ⟨rfl, rfl⟩ : [] = before ∧ text = after := by simpa using h
      exact ⟨by simp, by rw [hd]; rfl⟩
    · next hd =>
      obtain ⟨⟨front, back⟩, hSplit, hEq⟩ := Option.map_eq_some_iff.mp h
      obtain ⟨rfl, rfl⟩ := Prod.mk.inj hEq
      obtain ⟨hFree, rfl⟩ := ih hSplit
      exact ⟨List.not_mem_cons_of_ne_of_not_mem (Ne.symm hd) hFree, rfl⟩

/-- A part of a quoted value is read before what follows it. -/
theorem quotedTail_part {part : QuotedPart} (h : part.WellFormed) (text : List Char) :
    quotedTail (part.text ++ text) =
      (quotedTail text).map (ReadValue.after part.text part.isWildcard) := by
  cases part with
  | escaped c =>
    have hEscapable : isEscapable c = true := by
      simpa [QuotedPart.WellFormed, isEscapable, or_assoc] using h
    show quotedTail ('\\' :: c :: text) = _
    rw [quotedTail, if_pos hEscapable]
    rfl
  | plain c =>
    have hFree : c ≠ '"' ∧ c ≠ '\\' ∧ c ≠ '\n' := by
      simpa [QuotedPart.WellFormed] using h
    show quotedTail (c :: text) = _
    rw [quotedTail.eq_4 c text hFree.1 fun d rest hEq => absurd hEq hFree.2.1, if_neg hFree.2.2]
    rfl

theorem quotedTail_parts {parts : List QuotedPart} (h : ∀ part ∈ parts, part.WellFormed)
    {rest : List Char} (hRest : atEntryEnd rest = true) :
    quotedTail (parts.flatMap QuotedPart.text ++ '"' :: rest) =
      .ok ⟨parts.flatMap QuotedPart.text ++ ['"'], parts.any QuotedPart.isWildcard, rest⟩ := by
  induction parts with
  | nil =>
    show quotedTail ('"' :: rest) = _
    rw [quotedTail, if_pos hRest]
    rfl
  | cons part parts ih =>
    obtain ⟨hPart, hParts⟩ := List.forall_mem_cons.mp h
    rw [List.flatMap_cons, List.append_assoc, quotedTail_part hPart, ih hParts]
    simp only [Except.map, ReadValue.after, List.append_assoc, List.any_cons]

/-- What is read of a quoted value are parts and the closing quote. -/
theorem parts_of_quotedTail {text : List Char} {read : ReadValue}
    (h : quotedTail text = .ok read) :
    ∃ parts : List QuotedPart, (∀ part ∈ parts, part.WellFormed) ∧
      read.written = parts.flatMap QuotedPart.text ++ ['"'] ∧
      read.wildcard = parts.any QuotedPart.isWildcard ∧
      text = read.written ++ read.rest ∧ atEntryEnd read.rest = true := by
  fun_induction quotedTail text generalizing read with
  | case1 | case3 | case5 | case6 => simp at h
  | case2 rest hEnd =>
    obtain rfl := Except.ok.inj h
    exact ⟨[], by simp, rfl, rfl, rfl, hEnd⟩
  | case4 c rest hEscapable ih =>
    obtain ⟨tail, hTail, rfl⟩ := map_ok h
    obtain ⟨parts, hParts, hWritten, hWildcard, rfl, hEnd⟩ := ih hTail
    have hPart : (QuotedPart.escaped c).WellFormed := by
      simpa [QuotedPart.WellFormed, isEscapable, or_assoc] using hEscapable
    exact ⟨.escaped c :: parts, List.forall_mem_cons.mpr ⟨hPart, hParts⟩,
      by simp [ReadValue.after, hWritten, QuotedPart.text],
      by simp [ReadValue.after, hWildcard, QuotedPart.isWildcard], rfl, hEnd⟩
  | case7 c rest hQuote hEscape hNewline ih =>
    obtain ⟨tail, hTail, rfl⟩ := map_ok h
    obtain ⟨parts, hParts, hWritten, hWildcard, rfl, hEnd⟩ := ih hTail
    -- A backslash is read with the character behind it, and the closing quote is behind this one.
    have hBackslash : c ≠ '\\' := by
      rintro rfl
      cases hRest : tail.written ++ tail.rest with
      | nil => simp [hWritten] at hRest
      | cons d rest => exact hEscape d rest rfl hRest
    have hPart : (QuotedPart.plain c).WellFormed := by
      simpa [QuotedPart.WellFormed] using ⟨hQuote, hBackslash, hNewline⟩
    exact ⟨.plain c :: parts, List.forall_mem_cons.mpr ⟨hPart, hParts⟩,
      by simp [ReadValue.after, hWritten, QuotedPart.text],
      by simp [ReadValue.after, hWildcard, QuotedPart.isWildcard], rfl, hEnd⟩

/-! ### Values -/

theorem mem_valueSpoilers {c : Char} :
    c ∈ [',', '=', ':', '"', '\n'] ↔ c = ',' ∨ spoilsValue c = true := by
  simp [spoilsValue, or_assoc]

theorem takeWhile_append_entryEnd {text rest : List Char} (h : ',' ∉ text)
    (hRest : atEntryEnd rest = true) :
    (text ++ rest).takeWhile (· != ',') = text ∧ (text ++ rest).dropWhile (· != ',') = rest := by
  have hFree : ∀ c ∈ text, (c != ',') = true := fun c hc => by
    simpa using fun hEq : c = ',' => h (hEq ▸ hc)
  rw [List.takeWhile_append_of_pos hFree, List.dropWhile_append_of_pos hFree]
  cases rest with
  | nil => simp
  | cons c rest =>
    obtain rfl : c = ',' := by simpa [atEntryEnd] using hRest
    simp

theorem readValue_text {value : SpelledValue} (h : value.WellFormed) {rest : List Char}
    (hRest : atEntryEnd rest = true) :
    readValue (value.text ++ rest) = .ok ⟨value.text, value.hasWildcard, rest⟩ := by
  cases value with
  | quoted parts =>
    show readValue ('"' :: (parts.flatMap QuotedPart.text ++ ['"'] ++ rest)) = _
    rw [readValue, List.append_assoc, List.singleton_append, quotedTail_parts h hRest]
    rfl
  | bare text =>
    obtain ⟨hNe, hFree⟩ := h
    have hComma : ',' ∉ text := fun hc => hFree ',' hc (by simp)
    have hQuote (rest' : List Char) : text ++ rest ≠ '"' :: rest' := by
      cases text with
      | nil => exact absurd rfl hNe
      | cons c text =>
        rintro ⟨⟩
        exact hFree '"' (by simp) (by simp)
    have hSpoils : text.any spoilsValue = false := List.any_eq_false.mpr fun c hc hSpoils =>
      hFree c hc (mem_valueSpoilers.mpr (.inr hSpoils))
    obtain ⟨hTake, hDrop⟩ := takeWhile_append_entryEnd hComma hRest
    show readValue (text ++ rest) = _
    rw [readValue.eq_2 _ hQuote]
    simp only [hTake, hDrop, hSpoils, List.isEmpty_iff, hNe, if_false, Bool.false_eq_true]
    rfl

theorem value_of_readValue {text : List Char} {read : ReadValue} (h : readValue text = .ok read) :
    ∃ value : SpelledValue, value.WellFormed ∧ read.written = value.text ∧
      read.wildcard = value.hasWildcard ∧ text = value.text ++ read.rest ∧
      atEntryEnd read.rest = true := by
  unfold readValue at h
  split at h
  · next text =>
    obtain ⟨tail, hTail, rfl⟩ := map_ok h
    obtain ⟨parts, hParts, hWritten, hWildcard, rfl, hEnd⟩ := parts_of_quotedTail hTail
    refine ⟨.quoted parts, hParts, ?_, ?_, ?_, hEnd⟩
    · simp [ReadValue.after, SpelledValue.text, hWritten]
    · simp [ReadValue.after, SpelledValue.hasWildcard, hWildcard]
    · simp [ReadValue.after, SpelledValue.text, hWritten]
  · next hQuote =>
    dsimp only at h
    split at h
    · simp at h
    · next hNe =>
      split at h
      · simp at h
      · next hSpoils =>
        obtain rfl := Except.ok.inj h
        have hSpan := List.takeWhile_append_dropWhile (p := (· != ',')) (l := text)
        have hEnd : atEntryEnd (text.dropWhile (· != ',')) = true := by
          have hHead := List.head?_dropWhile_not (· != ',') text
          cases hRest : text.dropWhile (· != ',') with
          | nil => rfl
          | cons c rest => simpa [hRest, atEntryEnd] using hHead
        refine ⟨.bare (text.takeWhile (· != ',')), ⟨by simpa using hNe, fun c hc hMem => ?_⟩, rfl,
          rfl, hSpan.symm, hEnd⟩
        rcases mem_valueSpoilers.mp hMem with rfl | hSpoiler
        · simpa using List.all_eq_true.mp List.all_takeWhile _ hc
        · exact hSpoils (List.any_eq_true.mpr ⟨c, hc, hSpoiler⟩)

/-! ### Entries -/

theorem mem_keySpoilers {c : Char} :
    c ∈ [',', ':', '=', '*', '?', '"', '\n'] ↔ c = '=' ∨ spoilsKey c = true := by
  simp only [spoilsKey, List.mem_cons, List.not_mem_nil, Bool.or_eq_true, beq_iff_eq]
  grind

theorem readProperty_text {clause : Clause} (h : clause.WellFormed) {rest : List Char}
    (hRest : atEntryEnd rest = true) :
    readProperty (clause.text ++ rest) = .ok (clause.property, rest) := by
  have hEquals : '=' ∉ clause.key := fun hc => h.key_free '=' hc (by simp)
  have hSpoils : ¬clause.key.any spoilsKey = true := by
    simp only [List.any_eq_true, not_exists, not_and]
    exact fun c hc hSpoils => h.key_free c hc (mem_keySpoilers.mpr (.inr hSpoils))
  have hNe : ¬clause.key.isEmpty = true := by simpa using h.key_ne_nil
  rw [readProperty, Clause.text, List.append_assoc, List.cons_append,
    splitAt?_append hEquals (clause.value.text ++ rest)]
  simp only [if_neg hNe, if_neg hSpoils, readValue_text h.value hRest]
  rfl

theorem clause_of_readProperty {text rest : List Char} {property : Property}
    (h : readProperty text = .ok (property, rest)) :
    ∃ clause : Clause, clause.WellFormed ∧ property = clause.property ∧
      text = clause.text ++ rest ∧ atEntryEnd rest = true := by
  unfold readProperty at h
  split at h
  · simp at h
  · next key after hSplit =>
    obtain ⟨hEquals, rfl⟩ := eq_of_splitAt? hSplit
    split at h
    · simp at h
    · next hNe =>
      split at h
      · simp at h
      · next hSpoils =>
        obtain ⟨read, hRead, hEq⟩ := map_ok h
        obtain ⟨value, hValue, hWritten, hWildcard, rfl, hEnd⟩ := value_of_readValue hRead
        obtain ⟨rfl, rfl⟩ := Prod.mk.inj hEq
        refine ⟨⟨key, value⟩, ⟨by simpa using hNe, fun c hc hMem => ?_, hValue⟩, ?_, ?_, hEnd⟩
        · rcases mem_keySpoilers.mp hMem with rfl | hSpoiler
          · exact hEquals hc
          · exact hSpoils (List.any_eq_true.mpr ⟨c, hc, hSpoiler⟩)
        · rw [Clause.property, hWritten, hWildcard]
        · simp [Clause.text]

/-- Entries behind another, each behind its comma. -/
def moreEntries (entries : List SpelledEntry) : List Char :=
  entries.flatMap fun entry => ',' :: entry.text

theorem intercalate_entries (entry : SpelledEntry) (entries : List SpelledEntry) :
    [','].intercalate ((entry :: entries).map SpelledEntry.text) =
      entry.text ++ moreEntries entries := by
  induction entries generalizing entry with
  | nil => simp [moreEntries]
  | cons next entries ih =>
    rw [List.map_cons, List.map_cons, List.intercalate_cons_cons, ← List.map_cons, ih]
    simp [moreEntries]

theorem atEntryEnd_moreEntries (entries : List SpelledEntry) :
    atEntryEnd (moreEntries entries) = true := by
  cases entries <;> rfl

/-- A clause begins with a character that is neither a star nor a comma. -/
theorem Clause.exists_text_eq_cons {clause : Clause} (h : clause.WellFormed) :
    ∃ c text, clause.text = c :: text ∧ c ≠ '*' ∧ c ≠ ',' := by
  obtain ⟨key, value⟩ := clause
  cases key with
  | nil => exact absurd rfl h.key_ne_nil
  | cons c key =>
    have hFree := h.key_free c (List.mem_cons_self ..)
    exact ⟨c, _, rfl, by rintro rfl; simp at hFree, by rintro rfl; simp at hFree⟩

theorem SpelledEntry.text_ne_nil {entry : SpelledEntry} (h : entry.WellFormed) :
    entry.text ≠ [] := by
  cases entry with
  | star => exact List.cons_ne_nil _ _
  | clause clause =>
    obtain ⟨c, text, hText, -⟩ := clause.exists_text_eq_cons h
    simp [SpelledEntry.text, hText]

/-- Entries that may come after those read before: no key comes twice, and no second star. -/
structure Extends (properties : List Property) (isOpen : Bool) (entries : List SpelledEntry) :
    Prop where
  wellFormed : ∀ entry ∈ entries, entry.WellFormed
  star : entries.count .star + isOpen.toNat ≤ 1
  keys : (properties.map (·.key) ++
    (SpelledEntry.clauses entries).map (·.property.key)).Nodup

/-- What has been read once these entries are read as well. -/
def extended (properties : List Property) (isOpen : Bool) (entries : List SpelledEntry) :
    List Property × Bool :=
  (properties ++ (SpelledEntry.clauses entries).map Clause.property,
    isOpen || entries.contains .star)

theorem extends_star_cons {properties : List Property} {isOpen : Bool}
    {entries : List SpelledEntry} :
    Extends properties isOpen (.star :: entries) ↔
      isOpen = false ∧ Extends properties true entries := by
  constructor
  · rintro ⟨hEntries, hStar, hKeys⟩
    rw [List.count_cons_self] at hStar
    cases isOpen with
    | true => simp at hStar
    | false =>
      refine ⟨rfl, (List.forall_mem_cons.mp hEntries).2, ?_, hKeys⟩
      simp at hStar ⊢
      omega
  · rintro ⟨rfl, hEntries, hStar, hKeys⟩
    refine ⟨List.forall_mem_cons.mpr ⟨trivial, hEntries⟩, ?_, hKeys⟩
    rw [List.count_cons_self]
    simpa using hStar

theorem extends_clause_cons {properties : List Property} {isOpen : Bool} {clause : Clause}
    {entries : List SpelledEntry} :
    Extends properties isOpen (.clause clause :: entries) ↔
      clause.WellFormed ∧ clause.property.key ∉ properties.map (·.key) ∧
        Extends (properties ++ [clause.property]) isOpen entries := by
  have hCount : (SpelledEntry.clause clause :: entries).count .star = entries.count .star :=
    List.count_cons_of_ne (by simp)
  have hKeys : properties.map (·.key) ++
      (SpelledEntry.clauses (.clause clause :: entries)).map (·.property.key) =
      (properties ++ [clause.property]).map (·.key) ++
        (SpelledEntry.clauses entries).map (·.property.key) := by
    simp [SpelledEntry.clauses]
  constructor
  · rintro ⟨hEntries, hStar, hNodup⟩
    rw [hCount] at hStar
    rw [hKeys] at hNodup
    obtain ⟨hClause, hEntries⟩ := List.forall_mem_cons.mp hEntries
    refine ⟨hClause, ?_, hEntries, hStar, hNodup⟩
    have hFirst := (List.nodup_append.mp hNodup).1
    rw [List.map_append, List.nodup_append] at hFirst
    exact fun hMem => hFirst.2.2 _ hMem _ (by simp) rfl
  · rintro ⟨hClause, -, hEntries, hStar, hNodup⟩
    refine ⟨List.forall_mem_cons.mpr ⟨hClause, hEntries⟩, ?_, ?_⟩
    · rwa [hCount]
    · rwa [hKeys]

theorem extended_nil (properties : List Property) (isOpen : Bool) :
    extended properties isOpen [] = (properties, isOpen) := by
  simp [extended, SpelledEntry.clauses]

theorem extended_star_cons (properties : List Property) (isOpen : Bool)
    (entries : List SpelledEntry) :
    extended properties isOpen (.star :: entries) = extended properties true entries := by
  simp [extended, SpelledEntry.clauses]

theorem extended_clause_cons (properties : List Property) (isOpen : Bool) (clause : Clause)
    (entries : List SpelledEntry) :
    extended properties isOpen (.clause clause :: entries) =
      extended (properties ++ [clause.property]) isOpen entries := by
  simp [extended, SpelledEntry.clauses]

/-- A clause that is read is not taken for a star, and its key is new. -/
theorem readEntries_clause {properties : List Property} {clause : Clause} {rest : List Char}
    (h : clause.WellFormed) (hRest : atEntryEnd rest = true)
    (hKey : clause.property.key ∉ properties.map (·.key)) (isOpen : Bool) :
    readEntries properties isOpen (clause.text ++ rest) =
      readNext (properties ++ [clause.property]) isOpen rest := by
  have hStar (text : List Char) : clause.text ++ rest ≠ '*' :: text := by
    obtain ⟨c, behind, hText, hStar, -⟩ := clause.exists_text_eq_cons h
    rw [hText]
    exact fun hEq => hStar (List.cons.inj hEq).1
  have hNew : ¬properties.any (·.key == clause.property.key) = true := by
    simpa [List.any_eq_true] using hKey
  have hRead := readProperty_text h hRest
  rw [readEntries.eq_2 _ _ _ hStar]
  split
  · next flaw hFlaw => simp [hRead] at hFlaw
  · next property after hOk =>
    obtain ⟨rfl, rfl⟩ := Prod.mk.inj (Except.ok.inj (hRead.symm.trans hOk))
    rw [if_neg hNew]

/-- An entry is read as it is if what follows it is. -/
theorem readEntries_entry {properties : List Property} {isOpen : Bool} {entry : SpelledEntry}
    {entries : List SpelledEntry} (h : Extends properties isOpen (entry :: entries))
    (hNext : ∀ properties isOpen, Extends properties isOpen entries →
      readNext properties isOpen (moreEntries entries) = .ok (extended properties isOpen entries)) :
    readEntries properties isOpen (entry.text ++ moreEntries entries) =
      .ok (extended properties isOpen (entry :: entries)) := by
  have hEnd := atEntryEnd_moreEntries entries
  cases entry with
  | star =>
    obtain ⟨rfl, hEntries⟩ := extends_star_cons.mp h
    show readEntries properties false ('*' :: moreEntries entries) = _
    rw [readEntries.eq_1, if_neg Bool.false_ne_true, if_pos hEnd, hNext _ _ hEntries,
      extended_star_cons]
  | clause clause =>
    obtain ⟨hClause, hKey, hEntries⟩ := extends_clause_cons.mp h
    show readEntries properties isOpen (clause.text ++ moreEntries entries) = _
    rw [readEntries_clause hClause hEnd hKey, hNext _ _ hEntries, extended_clause_cons]

theorem readNext_moreEntries {properties : List Property} {isOpen : Bool}
    {entries : List SpelledEntry} (h : Extends properties isOpen entries) :
    readNext properties isOpen (moreEntries entries) =
      .ok (extended properties isOpen entries) := by
  induction entries generalizing properties isOpen with
  | nil =>
    show readNext properties isOpen [] = _
    rw [readNext.eq_3 _ _ _ (by simp) (by simp), extended_nil]
  | cons entry entries ih =>
    have hNe : entry.text ++ moreEntries entries ≠ [] :=
      List.append_ne_nil_of_left_ne_nil (entry.text_ne_nil (h.wellFormed entry (by simp))) _
    show readNext properties isOpen (',' :: (entry.text ++ moreEntries entries)) = _
    rw [readNext.eq_2 _ _ _ hNe, readEntries_entry h fun _ _ => ih]

/-- What is read is spelled by entries that fit those read before. -/
theorem entries_of_read :
    (∀ properties isOpen text, Extends properties isOpen [] →
      ∀ found, readEntries properties isOpen text = .ok found →
        ∃ entry entries, Extends properties isOpen (entry :: entries) ∧
          text = entry.text ++ moreEntries entries ∧
          found = extended properties isOpen (entry :: entries)) ∧
    (∀ properties isOpen text, Extends properties isOpen [] → atEntryEnd text = true →
      ∀ found, readNext properties isOpen text = .ok found →
        ∃ entries, Extends properties isOpen entries ∧ text = moreEntries entries ∧
          found = extended properties isOpen entries) := by
  apply readEntries.mutual_induct
  case case1 =>
    intro properties rest hBefore found h
    rw [readEntries.eq_1, if_pos rfl] at h
    simp at h
  case case2 =>
    intro properties isOpen rest hOpen hEnd ih hBefore found h
    rw [readEntries.eq_1, if_neg hOpen, if_pos hEnd] at h
    have hOpen : isOpen = false := by simpa using hOpen
    obtain ⟨entries, hEntries, rfl, rfl⟩ :=
      ih ⟨hBefore.wellFormed, Nat.le_refl 1, hBefore.keys⟩ hEnd found h
    exact ⟨.star, entries, extends_star_cons.mpr ⟨hOpen, hEntries⟩, rfl,
      (extended_star_cons properties isOpen entries).symm⟩
  case case3 =>
    intro properties isOpen rest hOpen hEnd hBefore found h
    rw [readEntries.eq_1, if_neg hOpen, if_neg hEnd] at h
    simp at h
  case case4 =>
    intro properties isOpen text hStar flaw hFlaw hBefore found h
    rw [readEntries.eq_2 _ _ _ hStar] at h
    split at h
    · simp at h
    · next hOk => simp [hFlaw] at hOk
  case case5 =>
    intro properties isOpen text hStar property rest hRead hKey hBefore found h
    rw [readEntries.eq_2 _ _ _ hStar] at h
    split at h
    · simp at h
    · next hOk =>
      obtain ⟨rfl, rfl⟩ := Prod.mk.inj (Except.ok.inj (hRead.symm.trans hOk))
      simp [hKey] at h
  case case6 =>
    intro properties isOpen text hStar property rest hRead hKey ih hBefore found h
    rw [readEntries.eq_2 _ _ _ hStar] at h
    split at h
    · simp at h
    · next hOk =>
      obtain ⟨rfl, rfl⟩ := Prod.mk.inj (Except.ok.inj (hRead.symm.trans hOk))
      rw [if_neg hKey] at h
      obtain ⟨clause, hClause, rfl, rfl, hEnd⟩ := clause_of_readProperty hRead
      have hNew : clause.property.key ∉ properties.map (·.key) := by
        simpa [List.any_eq_true] using hKey
      have hAfter : Extends (properties ++ [clause.property]) isOpen [] := by
        refine ⟨hBefore.wellFormed, hBefore.star, ?_⟩
        have hKeys : (properties.map (·.key)).Nodup := by
          simpa [SpelledEntry.clauses] using hBefore.keys
        simpa [SpelledEntry.clauses, List.nodup_append, hKeys] using hNew
      obtain ⟨entries, hEntries, rfl, rfl⟩ := ih hAfter hEnd found h
      exact ⟨.clause clause, entries, extends_clause_cons.mpr ⟨hClause, hNew, hEntries⟩, rfl,
        (extended_clause_cons properties isOpen clause entries).symm⟩
  case case7 =>
    intro properties isOpen hBefore hEnd found h
    rw [readNext.eq_1] at h
    simp at h
  case case8 =>
    intro properties isOpen rest hRest ih hBefore hEnd found h
    rw [readNext.eq_2 _ _ _ hRest] at h
    obtain ⟨entry, entries, hEntries, rfl, rfl⟩ := ih hBefore found h
    exact ⟨entry :: entries, hEntries, rfl, rfl⟩
  case case9 =>
    intro properties isOpen text hTrailing hNext hBefore hEnd found h
    rw [readNext.eq_3 _ _ _ hTrailing hNext] at h
    obtain rfl := Except.ok.inj h
    refine ⟨[], hBefore, ?_, (extended_nil properties isOpen).symm⟩
    cases text with
    | nil => rfl
    | cons c text =>
      have hc : c = ',' := by simpa [atEntryEnd] using hEnd
      exact absurd (hc ▸ rfl) (hNext text)

/-! ### Names -/

theorem mem_domainSpoilers {c : Char} :
    c ∈ [':', '\n', '=', ','] ↔ c = ':' ∨ endsDomain c = true := by
  simp [endsDomain, or_assoc]

/-- Keys that differ as lists differ as texts. -/
theorem nodup_map_key {clauses : List Clause} :
    (clauses.map (·.property.key)).Nodup ↔ (clauses.map Clause.key).Nodup := by
  simp only [List.Nodup, List.pairwise_map, Clause.property, ne_eq, String.ofList_inj]

theorem Spelling.WellFormed.colon {spelling : Spelling} (h : spelling.WellFormed) :
    ':' ∉ spelling.domain :=
  fun hc => h.domain ':' hc (by simp)

theorem Spelling.WellFormed.extends {spelling : Spelling} (h : spelling.WellFormed) :
    Extends [] false spelling.entries :=
  ⟨h.entries, h.star, nodup_map_key.mpr h.keys⟩

theorem Spelling.text_eq {domain : List Char} {entry : SpelledEntry} {entries : List SpelledEntry} :
    (Spelling.mk domain (entry :: entries)).text =
      domain ++ ':' :: (entry.text ++ moreEntries entries) := by
  rw [Spelling.text, intercalate_entries]

/-- A spelling is read as the name it spells. -/
theorem parse_of_spells {spelling : Spelling} {text : String} (h : spelling.Spells text) :
    parse text = .ok spelling.name := by
  obtain ⟨hSpelling, hText⟩ := h
  obtain ⟨domain, entries⟩ := spelling
  cases entries with
  | nil => exact absurd rfl hSpelling.entries_ne_nil
  | cons entry entries =>
    have hDomain : ¬domain.any endsDomain = true := by
      simp only [List.any_eq_true, not_exists, not_and]
      exact fun c hc hEnds => hSpelling.domain c hc (mem_domainSpoilers.mpr (.inr hEnds))
    rw [Spelling.text_eq] at hText
    have hNe : ¬(entry.text ++ moreEntries entries).isEmpty = true := by
      simp [entry.text_ne_nil (hSpelling.entries entry (by simp))]
    rw [parse, ← hText, splitAt?_append hSpelling.colon]
    simp only [if_neg hDomain, if_neg hNe,
      readEntries_entry hSpelling.extends fun _ _ => readNext_moreEntries]
    rfl

theorem spelling_of_parse {text : String} {name : BeanName} (h : parse text = .ok name) :
    ∃ spelling : Spelling, spelling.Spells text ∧ spelling.name = name := by
  unfold parse at h
  split at h
  · simp at h
  · next domain entries hSplit =>
    obtain ⟨hColon, hText⟩ := eq_of_splitAt? hSplit
    split at h
    · simp at h
    · next hDomain =>
      split at h
      · simp at h
      · obtain ⟨found, hFound, rfl⟩ := map_ok h
        have hNone : Extends [] false [] := ⟨by simp, by simp, by simp [SpelledEntry.clauses]⟩
        obtain ⟨entry, entries, hEntries, rfl, rfl⟩ :=
          entries_of_read.1 [] false entries hNone found hFound
        refine ⟨⟨domain, entry :: entries⟩, ⟨⟨fun c hc hMem => ?_, by simp, hEntries.wellFormed,
          hEntries.star, nodup_map_key.mp hEntries.keys⟩, ?_⟩, rfl⟩
        · rcases mem_domainSpoilers.mp hMem with rfl | hEnds
          · exact hColon hc
          · exact hDomain (List.any_eq_true.mpr ⟨c, hc, hEnds⟩)
        · rw [Spelling.text_eq, hText]

end BeanBridge.BeanName
