import BeanBridge.Failure
import BeanBridge.Proofs.BeanName.Text

/-! Displaying a name and reading it are inverse.  The text of a name that was read is the text it was
read from, but for a star among the entries, which goes behind the others. -/

namespace BeanBridge.BeanName

namespace Spelling

/-- The spelling with a star behind the other entries, which stay in their order. -/
def withStarMoved (spelling : Spelling) : Spelling where
  domain := spelling.domain
  entries := spelling.entries.filter (· ≠ .star) ++ spelling.entries.filter (· = .star)

theorem map_clauses (entries : List SpelledEntry) :
    (SpelledEntry.clauses entries).map .clause = entries.filter (· ≠ .star) := by
  induction entries with
  | nil => rfl
  | cons entry entries ih => cases entry <;> simp [SpelledEntry.clauses, ih]

/-- The stars among entries of which one at most is a star. -/
theorem filter_star {entries : List SpelledEntry} (h : entries.count .star ≤ 1) :
    entries.filter (· = .star) = if entries.contains .star then [.star] else [] := by
  have hFilter : entries.filter (· = .star) = List.replicate (entries.count .star) .star := by
    rw [← List.filter_beq]
    congr 1
  rw [hFilter]
  by_cases hStar : .star ∈ entries
  · have hPos := List.count_pos_iff.mpr hStar
    have hOne : entries.count .star = 1 := by omega
    simp [hOne, hStar]
  · simp [List.count_eq_zero.mpr hStar, hStar]

theorem WellFormed.withStarMoved_eq {spelling : Spelling} (h : spelling.WellFormed) :
    spelling.withStarMoved = ⟨spelling.domain, spelling.starLast⟩ := by
  rw [withStarMoved, filter_star h.star, ← map_clauses]
  rfl

/-- A spelling without a star stays as it is. -/
theorem withStarMoved_of_not_mem {spelling : Spelling} (h : .star ∉ spelling.entries) :
    spelling.withStarMoved = spelling := by
  have hKept : spelling.entries.filter (· ≠ .star) = spelling.entries := by
    apply List.filter_eq_self.mpr
    intro entry hEntry
    exact decide_eq_true fun hStar : entry = .star => h (hStar ▸ hEntry)
  have hNone : spelling.entries.filter (· = .star) = [] := by
    apply List.filter_eq_nil_iff.mpr
    intro entry hEntry
    simpa using fun hStar : entry = .star => h (hStar ▸ hEntry)
  rw [withStarMoved, hKept, hNone, List.append_nil]

end Spelling

/-- The text of a name that was read is read as the same name, also where an operation is asked for
on it.  It is the text that the name was read from with the star moved behind the other entries, and
the very same text if there is no star. -/
theorem display_inverts_parse {text : String} {name : BeanName} (h : parse text = .ok name) :
    parse name.text = .ok name ∧ parseForOperation name.text = .ok name ∧
      (∃ spelling : Spelling, spelling.Spells text ∧
        spelling.withStarMoved.Spells name.text) ∧
      (name.isOpen = false → name.text = text) := by
  have hAgain := parse_text h
  obtain ⟨spelling, hSpells, rfl⟩ := spelling_of_parse h
  have hMoved : spelling.withStarMoved.Spells spelling.name.text := by
    rw [hSpells.1.withStarMoved_eq]
    exact ⟨hSpells.1.starLast, spelling.text_starLast⟩
  refine ⟨hAgain, ?_, ⟨spelling, hSpells, hMoved⟩, ?_⟩
  · rw [parseForOperation, hAgain]
    rfl
  · intro hClosed
    have hStar : .star ∉ spelling.entries := by
      intro hStar
      have hOpen : spelling.name.isOpen = true := List.contains_iff_mem.mpr hStar
      exact Bool.false_ne_true (hClosed.symm.trans hOpen)
    rw [Spelling.withStarMoved_of_not_mem hStar] at hMoved
    apply String.toList_inj.mp
    exact hMoved.2.symm.trans hSpells.2

/-- A star before a quoted value that holds separators, escapes and a star of its own. -/
theorem display_inverts_parse_star_first :
    let text := "a*:*,k=\"x,=:\\\"*\",t=y?"
    let name : BeanName :=
      ⟨"a*", [⟨"k", "\"x,=:\\\"*\"", true⟩, ⟨"t", "y?", true⟩], true⟩
    parse text = .ok name ∧ name.text = "a*:k=\"x,=:\\\"*\",t=y?,*" ∧
      parse name.text = .ok name := by
  intro text name
  have hSpells : Spelling.Spells ⟨['a', '*'], [.star,
      .clause ⟨['k'], .quoted [.plain 'x', .plain ',', .plain '=', .plain ':', .escaped '"',
        .plain '*']⟩, .clause ⟨['t'], .bare ['y', '?']⟩]⟩ text := by decide +kernel
  have hParse : parse text = .ok name := parse_of_spells hSpells
  exact ⟨hParse, by decide +kernel, (display_inverts_parse hParse).1⟩

end BeanBridge.BeanName
