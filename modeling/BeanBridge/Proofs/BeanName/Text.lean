import BeanBridge.Proofs.BeanName.Parsing

/-! The text of a name that was read spells the name again, its star behind the clauses. -/

namespace BeanBridge.BeanName

namespace Spelling

/-- The entries with the star behind the clauses. -/
def starLast (spelling : Spelling) : List SpelledEntry :=
  spelling.clauses.map .clause ++ if spelling.name.isOpen then [.star] else []

theorem clauses_append (entries others : List SpelledEntry) :
    SpelledEntry.clauses (entries ++ others) =
      SpelledEntry.clauses entries ++ SpelledEntry.clauses others := by
  induction entries with
  | nil => rfl
  | cons entry entries ih => cases entry <;> simp [SpelledEntry.clauses, ih]

theorem clauses_map_clause (clauses : List Clause) :
    SpelledEntry.clauses (clauses.map .clause) = clauses := by
  induction clauses with
  | nil => rfl
  | cons clause clauses ih => rw [List.map_cons, SpelledEntry.clauses, ih]

theorem clauses_starLast (spelling : Spelling) :
    SpelledEntry.clauses spelling.starLast = spelling.clauses := by
  rw [starLast, clauses_append, clauses_map_clause]
  split
  · exact List.append_nil _
  · exact List.append_nil _

theorem mem_clauses {entries : List SpelledEntry} {clause : Clause} :
    clause ∈ SpelledEntry.clauses entries ↔ SpelledEntry.clause clause ∈ entries := by
  induction entries with
  | nil => simp [SpelledEntry.clauses]
  | cons entry entries ih => cases entry <;> simp [SpelledEntry.clauses, ih]

theorem WellFormed.clause {spelling : Spelling} (h : spelling.WellFormed) {clause : Clause}
    (hClause : clause ∈ spelling.clauses) : clause.WellFormed :=
  h.entries _ (mem_clauses.mp hClause)

theorem starLast_ne_nil {spelling : Spelling} (h : spelling.entries ≠ []) :
    spelling.starLast ≠ [] := by
  intro hNil
  obtain ⟨hClauses, hOpen⟩ := List.append_eq_nil_iff.mp hNil
  obtain ⟨entry, entries, hEntries⟩ := List.exists_cons_of_ne_nil h
  cases entry with
  | star => simp [name, hEntries] at hOpen
  | clause clause => simp [clauses, hEntries, SpelledEntry.clauses] at hClauses

/-- With its star last a spelling is still one. -/
theorem WellFormed.starLast {spelling : Spelling} (h : spelling.WellFormed) :
    (Spelling.mk spelling.domain spelling.starLast).WellFormed where
  domain := h.domain
  entries_ne_nil := starLast_ne_nil h.entries_ne_nil
  entries := by
    intro entry hEntry
    rcases List.mem_append.mp hEntry with hMap | hStar
    · obtain ⟨clause, hClause, rfl⟩ := List.mem_map.mp hMap
      exact h.clause hClause
    · split at hStar
      · obtain rfl := List.mem_singleton.mp hStar
        trivial
      · cases hStar
  star := by
    have hCount : (spelling.clauses.map SpelledEntry.clause).count .star = 0 :=
      List.count_eq_zero.mpr (by simp)
    simp only [Spelling.starLast, List.count_append, hCount]
    split
    · simp
    · simp
  keys := by
    show ((SpelledEntry.clauses spelling.starLast).map Clause.key).Nodup
    rw [clauses_starLast]
    exact h.keys

theorem name_starLast (spelling : Spelling) :
    (Spelling.mk spelling.domain spelling.starLast).name = spelling.name := by
  have hOpen : spelling.starLast.contains .star = spelling.name.isOpen := by
    rw [starLast]
    cases spelling.name.isOpen <;> simp
  show BeanName.mk _ ((SpelledEntry.clauses spelling.starLast).map Clause.property)
    (spelling.starLast.contains .star) = _
  rw [clauses_starLast, hOpen]
  rfl

/-- The properties are written as the clauses are spelled. -/
theorem toList_propertiesText (clauses : List Clause) :
    (propertiesText (clauses.map Clause.property)).toList =
      [','].intercalate ((clauses.map SpelledEntry.clause).map SpelledEntry.text) := by
  have hText (clause : Clause) : clause.property.text.toList = clause.text := by
    simp [Property.text, Clause.property, Clause.text, String.toList_append]
  rw [propertiesText, String.toList_intercalate]
  simp only [List.map_map, Function.comp_def, hText, SpelledEntry.text]
  rfl

theorem text_starLast (spelling : Spelling) :
    (Spelling.mk spelling.domain spelling.starLast).text = spelling.name.text.toList := by
  have hProperties : spelling.name.properties = spelling.clauses.map Clause.property := rfl
  rw [BeanName.text, hProperties, String.toList_append, String.toList_append,
    toList_propertiesText, Spelling.text]
  simp only [starLast]
  cases spelling.clauses with
  | nil => cases spelling.name.isOpen <;> simp [name, SpelledEntry.text]
  | cons clause clauses =>
    cases spelling.name.isOpen with
    | false => simp [name]
    | true =>
      have hLast := intercalate_entries (.clause clause) (clauses.map .clause ++ [.star])
      have hMore : moreEntries (clauses.map .clause ++ [.star]) =
          moreEntries (clauses.map .clause) ++ [',', '*'] := by
        simp [moreEntries, SpelledEntry.text]
      rw [hMore, ← List.append_assoc, ← intercalate_entries] at hLast
      show spelling.domain ++ ':' :: [','].intercalate
        ((SpelledEntry.clause clause :: (clauses.map .clause ++ [.star])).map SpelledEntry.text) = _
      rw [hLast]
      simp [name]

end Spelling

/-- A name that was read is read again from its own text. -/
theorem parse_text {text : String} {name : BeanName} (h : parse text = .ok name) :
    parse name.text = .ok name := by
  obtain ⟨spelling, ⟨hSpelling, -⟩, rfl⟩ := spelling_of_parse h
  have hSpells : (Spelling.mk spelling.domain spelling.starLast).Spells spelling.name.text :=
    ⟨hSpelling.starLast, spelling.text_starLast⟩
  rw [parse_of_spells hSpells, spelling.name_starLast]

end BeanBridge.BeanName
