import BeanBridge.Proofs.BeanName.Display
import BeanBridge.Proofs.BeanName.Selection
import BeanBridge.Proofs.BeanName.Wildcards

/-! What a pattern selects, with its properties taken as a set.  The matcher looks each property up
and compares how many there are; as no key comes twice in a name that was read, this tells whether
the keys are the same, and in which order a name is written does not matter.  A value that is asked
for stands for itself, wildcards or not, if the expression for it compiles. -/

namespace BeanBridge

namespace Property

variable {library : RegexLibrary} {wanted : Property} {value : String}

/-- The value is the one asked for, or one that wildcards in it stand for. -/
def Allows (library : RegexLibrary) (wanted : Property) (value : String) : Prop :=
  value = wanted.value ∨
    wanted.wildcard = true ∧ Glob.isMatchBy library wanted.value value = true

theorem Allows.of_admits (h : wanted.admits value library = true) : wanted.Allows library value := by
  rw [admits] at h
  split at h
  · next hWildcard => exact .inr ⟨hWildcard, h⟩
  · exact .inl (beq_iff_eq.mp h).symm

/-- The expression for the value compiles, if there is one. -/
def CompilesBy (library : RegexLibrary) (wanted : Property) : Prop :=
  wanted.wildcard = true → library.Compiles wanted.value

instance : Decidable (wanted.CompilesBy library) := inferInstanceAs (Decidable (_ → _))

theorem admits_iff_allows (h : library.Documented) (hCompiles : wanted.CompilesBy library) :
    wanted.admits value library = true ↔ wanted.Allows library value := by
  refine ⟨.of_admits, ?_⟩
  rw [admits]
  split
  · next hWildcard =>
    rintro (rfl | ⟨-, hMatch⟩)
    · exact Glob.isMatchBy_self h (hCompiles hWildcard)
    · exact hMatch
  · next hWildcard =>
    rintro (rfl | ⟨hTrue, -⟩)
    · exact beq_self_eq_true _
    · exact absurd hTrue hWildcard

end Property

namespace BeanName

variable {library : RegexLibrary} {pattern bean : BeanName}

/-- The expressions for the domain and for the values compile. -/
structure CompilesBy (library : RegexLibrary) (pattern : BeanName) : Prop where
  domain : library.Compiles pattern.domain
  properties : ∀ wanted ∈ pattern.properties, wanted.CompilesBy library

def keys (name : BeanName) : List String := name.properties.map Property.key

/-- The pattern selects the bean, as far as the sets of their properties tell, with values allowed in
some way. -/
structure SelectsAsSets (library : RegexLibrary) (allows : Property → String → Prop)
    (pattern bean : BeanName) : Prop where
  domain : Glob.isMatchBy library pattern.domain bean.domain = true
  properties : ∀ wanted ∈ pattern.properties, ∃ found ∈ bean.properties,
    found.key = wanted.key ∧ allows wanted found.value
  keys : pattern.isOpen = true ∨ ∀ key, key ∈ pattern.keys ↔ key ∈ bean.keys

theorem any_value?_iff (h : bean.keys.Nodup) {key : String} {admits : String → Bool} :
    (bean.value? key).any admits = true ↔
      ∃ found ∈ bean.properties, found.key = key ∧ admits found.value = true := by
  simp only [Option.any_eq_true, value?_eq_some_iff h, pairs, List.mem_map, Prod.mk.injEq]
  constructor
  · rintro ⟨_, ⟨found, hFound, hKey, rfl⟩, hAdmits⟩
    exact ⟨found, hFound, hKey, hAdmits⟩
  · rintro ⟨found, hFound, hKey, hAdmits⟩
    exact ⟨found.value, ⟨found, hFound, hKey, rfl⟩, hAdmits⟩

/-- With values allowed as the matcher admits them, this is what the matcher tells. -/
theorem selects_iff_of_admits (h : pattern.keys.Nodup) (hBean : bean.keys.Nodup) :
    pattern.selects bean library = true ↔
      pattern.SelectsAsSets library (fun wanted value => wanted.admits value library = true) bean := by
  have hLength (name : BeanName) : name.properties.length = name.keys.length := by
    rw [keys, List.length_map]
  have hSame := mem_iff_of_subset_of_length h hBean
  simp only [selects, Bool.and_eq_true, Bool.or_eq_true, beq_iff_eq, List.all_eq_true,
    any_value?_iff hBean, hLength]
  constructor
  · rintro ⟨⟨hDomain, hCount⟩, hProperties⟩
    -- Every key of the pattern is one of the bean, and there are as many of either.
    refine ⟨hDomain, hProperties, hCount.imp_right fun hCount => hSame.mp ⟨hCount, ?_⟩⟩
    rintro _ hKey
    obtain ⟨wanted, hWanted, rfl⟩ := List.mem_map.mp hKey
    obtain ⟨found, hFound, hEq, -⟩ := hProperties wanted hWanted
    exact hEq ▸ List.mem_map_of_mem hFound
  · rintro ⟨hDomain, hProperties, hKeys⟩
    exact ⟨⟨hDomain, hKeys.imp_right fun hKeys => (hSame.mpr hKeys).1⟩, hProperties⟩

theorem SelectsAsSets.mono {allows allows' : Property → String → Prop}
    (h : pattern.SelectsAsSets library allows bean)
    (hAllows : ∀ wanted ∈ pattern.properties, ∀ value, allows wanted value → allows' wanted value) :
    pattern.SelectsAsSets library allows' bean where
  domain := h.domain
  properties := fun wanted hWanted => by
    obtain ⟨found, hFound, hKey, hValue⟩ := h.properties wanted hWanted
    exact ⟨found, hFound, hKey, hAllows wanted hWanted _ hValue⟩
  keys := h.keys

theorem selects_iff_selectsAsSets (hLibrary : library.Documented)
    (hCompiles : pattern.CompilesBy library) (h : pattern.keys.Nodup) (hBean : bean.keys.Nodup) :
    pattern.selects bean library = true ↔
      pattern.SelectsAsSets library (Property.Allows library) bean := by
  have hAllows (wanted : Property) (hWanted : wanted ∈ pattern.properties) (value : String) :
      wanted.admits value library = true ↔ wanted.Allows library value :=
    Property.admits_iff_allows hLibrary (hCompiles.properties wanted hWanted)
  rw [selects_iff_of_admits h hBean]
  exact ⟨fun hSets => hSets.mono fun wanted hWanted value => (hAllows wanted hWanted value).mp,
    fun hSets => hSets.mono fun wanted hWanted value => (hAllows wanted hWanted value).mpr⟩

namespace Spelling

end Spelling

end BeanName

end BeanBridge
