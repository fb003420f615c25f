import Mathlib.Data.List.Nodup
import Mathlib.Data.List.Perm.Subperm
import BeanBridge.BeanName.Matching
import BeanBridge.Proofs.BeanName.Canonical
import BeanBridge.Proofs.BeanName.Expression

/-! What a name without wildcards selects.  It asks for its own domain, for each of its properties as
written, and for no other property; since no key comes twice, a name with as many properties and all
of these has no others, so what is selected is named by the same canonical text.  All this holds as long
as the expression for the domain compiles; if it does not, nothing is selected. -/

namespace BeanBridge.BeanName

variable {library : RegexLibrary} {name other : BeanName}

/-- A value that is found stands there with its key, and as no key comes twice it is found. -/
theorem value?_eq_some_iff (h : (other.properties.map Property.key).Nodup) {key value : String} :
    other.value? key = some value ↔ (key, value) ∈ other.pairs := by
  rw [value?, pairs, List.mem_map, Option.map_eq_some_iff]
  constructor
  · rintro ⟨property, hFound, rfl⟩
    obtain rfl : property.key = key := by simpa using List.find?_some hFound
    exact ⟨property, List.mem_of_find?_eq_some hFound, rfl⟩
  · rintro ⟨property, hMem, hPair⟩
    obtain ⟨rfl, rfl⟩ := Prod.mk.inj hPair
    have hSome : (other.properties.find? (·.key == property.key)).isSome :=
      List.find?_isSome.mpr ⟨property, hMem, beq_self_eq_true _⟩
    obtain ⟨found, hFound⟩ := Option.isSome_iff_exists.mp hSome
    have hKey : found.key = property.key := by simpa using List.find?_some hFound
    obtain rfl := List.inj_on_of_nodup_map h (List.mem_of_find?_eq_some hFound) hMem hKey
    exact ⟨found, hFound, rfl⟩

theorem selects_of_not_compiles (h : ¬library.Compiles name.domain) (other : BeanName) :
    name.selects other library = false := by
  rw [selects, Glob.isMatchBy_of_not_compiles h, Bool.false_and, Bool.false_and]

/-- A name without wildcards selects the names that have its domain, as many properties, and each of
its own. -/
theorem selects_iff_of_single (hLibrary : library.Documented)
    (hCompiles : library.Compiles name.domain) (h : name.isPattern = false)
    (hKeys : (other.properties.map Property.key).Nodup) :
    name.selects other library = true ↔ name.domain = other.domain ∧
      name.pairs.length = other.pairs.length ∧ name.pairs ⊆ other.pairs := by
  simp only [isPattern, isDomainPattern, isPropertyPattern, Bool.or_eq_false_iff,
    List.any_eq_false, Bool.not_eq_true] at h
  obtain ⟨hDomain, hOpen, hValues⟩ := h
  have hAdmits (wanted : Property) (hWanted : wanted ∈ name.properties) :
      ((other.value? wanted.key).any fun value => wanted.admits value library) = true ↔
        (wanted.key, wanted.value) ∈ other.pairs := by
    rw [← value?_eq_some_iff hKeys]
    cases other.value? wanted.key with
    | none => simp
    | some value =>
      rw [Option.any_some, Property.admits, hValues wanted hWanted, if_neg Bool.false_ne_true,
        beq_iff_eq, Option.some_inj, eq_comm]
  have hAll : (name.properties.all fun wanted =>
      (other.value? wanted.key).any fun value => wanted.admits value library) = true ↔
        name.pairs ⊆ other.pairs := by
    rw [List.all_eq_true, pairs, List.subset_def, List.forall_mem_map]
    exact forall₂_congr hAdmits
  rw [selects, Bool.and_eq_true, Bool.and_eq_true, Glob.isMatchBy_eq_isMatch hLibrary hCompiles,
    Glob.isMatch_literal hDomain, String.toList_inj, hOpen, Bool.false_or, beq_iff_eq, hAll,
    and_assoc]
  simp only [pairs, List.length_map]

/-- Lists of distinct things, one within the other and as long, hold the same things. -/
theorem mem_iff_of_subset_of_length {α : Type} {pairs others : List α} (h : pairs.Nodup)
    (hOthers : others.Nodup) :
    (pairs.length = others.length ∧ pairs ⊆ others) ↔ ∀ pair, pair ∈ pairs ↔ pair ∈ others := by
  constructor
  · rintro ⟨hLength, hSubset⟩ pair
    have hPerm := (List.subperm_of_subset h hSubset).perm_of_length_le (Nat.le_of_eq hLength.symm)
    exact hPerm.mem_iff
  · intro hMem
    exact ⟨((List.perm_ext_iff_of_nodup h hOthers).mpr hMem).length_eq,
      fun pair => (hMem pair).mp⟩

namespace Spelling

theorem WellFormed.nodup_keys {spelling : Spelling} (h : spelling.WellFormed) :
    (spelling.name.properties.map Property.key).Nodup := by
  have hKeys := nodup_map_key.mpr h.keys
  rwa [name, List.map_map]

theorem WellFormed.nodup_pairs {spelling : Spelling} (h : spelling.WellFormed) :
    spelling.name.pairs.Nodup := by
  refine List.Nodup.of_map Prod.fst ?_
  rw [pairs, List.map_map]
  exact h.nodup_keys

/-- Names are told apart by their canonical texts. -/
theorem canonicalText_eq_iff_sameBean {spelling other : Spelling} (h : spelling.WellFormed)
    (hOther : other.WellFormed) :
    spelling.name.canonicalText = other.name.canonicalText ↔
      spelling.name.domain = other.name.domain ∧
        ∀ pair, pair ∈ spelling.name.pairs ↔ pair ∈ other.name.pairs := by
  have hColon {s : Spelling} (hs : s.WellFormed) : ':' ∉ s.name.domain.toList := by
    simpa [name] using hs.colon
  rw [canonicalText_eq_iff (hColon h) (hColon hOther), canonicalProperties_eq_iff h hOther,
    sortedClauses_eq_iff h hOther]

end Spelling

/-- A name that is no pattern selects the names of its own canonical text. -/
theorem selects_iff_canonicalText (hLibrary : library.Documented)
    (hCompiles : library.Compiles name.domain) {text textOther : String}
    (h : parse text = .ok name) (hOther : parse textOther = .ok other)
    (hSingle : name.isPattern = false) :
    name.selects other library = true ↔ name.canonicalText = other.canonicalText := by
  obtain ⟨spelling, ⟨hSpelling, -⟩, rfl⟩ := spelling_of_parse h
  obtain ⟨spellingOther, ⟨hSpellingOther, -⟩, rfl⟩ := spelling_of_parse hOther
  rw [selects_iff_of_single hLibrary hCompiles hSingle hSpellingOther.nodup_keys,
    Spelling.canonicalText_eq_iff_sameBean hSpelling hSpellingOther,
    mem_iff_of_subset_of_length hSpelling.nodup_pairs hSpellingOther.nodup_pairs]

/-! ### Names that are too long -/

/-- A name with a domain of so many letters, and one property. -/
def longSpelling (n : Nat) : Spelling := ⟨List.replicate n 'a', [.clause ⟨['k'], .bare ['v']⟩]⟩

theorem parse_longSpelling (n : Nat) :
    parse (String.ofList (longSpelling n).text) = .ok (longSpelling n).name := by
  have hShort : (longSpelling 0).WellFormed := by decide
  have hDomain : Free [':', '\n', '=', ','] (longSpelling n).domain := by
    intro c hc
    rw [List.eq_of_mem_replicate hc]
    decide
  -- But for the domain the name is the one without a domain.
  exact parse_of_spells ⟨⟨hDomain, hShort.2, hShort.3, hShort.4, hShort.5⟩, String.toList_ofList.symm⟩

theorem isPattern_longSpelling (n : Nat) : (longSpelling n).name.isPattern = false := by
  have hDomain : (longSpelling n).name.isDomainPattern = false := by
    simp [longSpelling, Spelling.name, isDomainPattern, isWildcard]
  rw [isPattern, hDomain]
  rfl

theorem selects_longSpelling {n : Nat} (h : RegexLibrary.maxParts < n + 3) (other : BeanName) :
    (longSpelling n).name.selects other = false := by
  refine selects_of_not_compiles ?_ other
  rw [RegexLibrary.compiles_ofPatterns_iff]
  simpa [longSpelling, Spelling.name] using h

end BeanBridge.BeanName
