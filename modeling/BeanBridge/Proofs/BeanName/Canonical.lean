import BeanBridge.BeanName.Path
import BeanBridge.Proofs.BeanName.Text
import BeanBridge.Proofs.BeanName.Uniqueness

/-! When two names are names of the same bean.  The canonical text sorts the properties by key and
forgets the star; since keys are distinct, and values are written so that the separators between
properties are known, nothing else is lost.  The path adds an escape, which is undone part by
part. -/

namespace BeanBridge.BeanName

/-- The pairs of key and value, as written. -/
def pairs (name : BeanName) : List (String × String) :=
  name.properties.map fun property => (property.key, property.value)

/-- The names have their domain and their pairs in common. -/
structure SameBean (name other : BeanName) : Prop where
  domain : name.domain = other.domain
  pairs : ∀ pair, pair ∈ name.pairs ↔ pair ∈ other.pairs

/-- Cuts a path at its first slash that is not escaped. -/
def cutPath : List Char → Option (List Char × List Char)
  | '!' :: '!' :: path => (cutPath path).map fun cut => ('!' :: '!' :: cut.1, cut.2)
  | '!' :: '/' :: path => (cutPath path).map fun cut => ('!' :: '/' :: cut.1, cut.2)
  | '/' :: path => some ([], path)
  | c :: path => (cutPath path).map fun cut => (c :: cut.1, cut.2)
  | [] => none

/-- The part of a path that is written like this. -/
def unescapedInPath : List Char → List Char
  | '!' :: '!' :: part => '!' :: unescapedInPath part
  | '!' :: '/' :: part => '/' :: unescapedInPath part
  | c :: part => c :: unescapedInPath part
  | [] => []

/-- The two parts of a path. -/
def readPath (path : String) : Option (String × String) :=
  (cutPath path.toList).map fun cut =>
    (String.ofList (unescapedInPath cut.1), String.ofList (unescapedInPath cut.2))

/-! ### Paths -/

/-- An escaped character is no place to cut. -/
theorem cutPath_escapedInPath (c : Char) (path : List Char) :
    cutPath (escapedInPath c ++ path) =
      (cutPath path).map fun cut => (escapedInPath c ++ cut.1, cut.2) := by
  unfold escapedInPath
  split
  · exact cutPath.eq_1 path
  · split
    · exact cutPath.eq_2 path
    · next hMark hSlash =>
      exact cutPath.eq_4 c path (fun _ h => absurd h hMark) (fun _ h => absurd h hMark) hSlash

theorem unescapedInPath_escapedInPath (c : Char) (part : List Char) :
    unescapedInPath (escapedInPath c ++ part) = c :: unescapedInPath part := by
  unfold escapedInPath
  split
  · next hMark => rw [hMark]; exact unescapedInPath.eq_1 part
  · split
    · next hSlash => rw [hSlash]; exact unescapedInPath.eq_2 part
    · next hMark hSlash =>
      exact unescapedInPath.eq_3 c part (fun _ h => absurd h hMark) (fun _ h => absurd h hMark)

theorem cutPath_escaped (part back : List Char) :
    cutPath (part.flatMap escapedInPath ++ '/' :: back) =
      some (part.flatMap escapedInPath, back) := by
  induction part with
  | nil => rfl
  | cons c part ih =>
    rw [List.flatMap_cons, List.append_assoc, cutPath_escapedInPath, ih]
    rfl

theorem unescapedInPath_escaped (part : List Char) :
    unescapedInPath (part.flatMap escapedInPath) = part := by
  induction part with
  | nil => rfl
  | cons c part ih => rw [List.flatMap_cons, unescapedInPath_escapedInPath, ih]

theorem readPath_path (name : BeanName) :
    readPath name.path = some (name.domain, name.canonicalProperties) := by
  have hText : name.path.toList = name.domain.toList.flatMap escapedInPath ++
      '/' :: name.canonicalProperties.toList.flatMap escapedInPath := by
    simp [path, pathPart, String.toList_append]
  rw [readPath, hText, cutPath_escaped]
  simp only [Option.map_some, unescapedInPath_escaped, String.ofList_toList]

theorem path_eq_iff (name other : BeanName) :
    name.path = other.path ↔
      name.domain = other.domain ∧ name.canonicalProperties = other.canonicalProperties := by
  constructor
  · intro h
    have hRead := readPath_path name
    rw [h, readPath_path] at hRead
    obtain ⟨hDomain, hProperties⟩ := Prod.mk.inj (Option.some.inj hRead)
    exact ⟨hDomain.symm, hProperties.symm⟩
  · rintro ⟨hDomain, hProperties⟩
    rw [path, path, hDomain, hProperties]

/-! ### Canonical texts -/

theorem canonicalText_eq_iff {name other : BeanName} (h : ':' ∉ name.domain.toList)
    (hOther : ':' ∉ other.domain.toList) :
    name.canonicalText = other.canonicalText ↔
      name.domain = other.domain ∧ name.canonicalProperties = other.canonicalProperties := by
  have hText (n : BeanName) : n.canonicalText.toList =
      n.domain.toList ++ ':' :: n.canonicalProperties.toList := by
    simp [canonicalText, String.toList_append]
  constructor
  · intro hEq
    have hSplit := splitAt?_append h name.canonicalProperties.toList
    rw [← hText, hEq, hText, splitAt?_append hOther] at hSplit
    obtain ⟨hDomain, hProperties⟩ := Prod.mk.inj (Option.some.inj hSplit)
    exact ⟨String.toList_inj.mp hDomain.symm, String.toList_inj.mp hProperties.symm⟩
  · rintro ⟨hDomain, hProperties⟩
    rw [canonicalText, canonicalText, hDomain, hProperties]

namespace Spelling

/-- The clauses in the order of their keys. -/
def sortedClauses (spelling : Spelling) : List Clause :=
  spelling.clauses.mergeSort fun clause next => decide (clause.property.key ≤ next.property.key)

theorem sortedClauses_perm (spelling : Spelling) :
    spelling.sortedClauses.Perm spelling.clauses :=
  List.mergeSort_perm _ _

theorem pairwise_sortedClauses (spelling : Spelling) : spelling.sortedClauses.Pairwise
    fun clause next => clause.property.key ≤ next.property.key := by
  have hSorted := @List.pairwise_mergeSort Clause
    (fun clause next => decide (clause.property.key ≤ next.property.key))
    (fun a b c hAb hBc => by simpa using String.le_trans (by simpa using hAb) (by simpa using hBc))
    (fun a b => by simpa using String.le_total _ _) spelling.clauses
  exact hSorted.imp of_decide_eq_true

/-- The canonical properties are the clauses, sorted and separated by commas. -/
theorem canonicalProperties_name (spelling : Spelling) :
    spelling.name.canonicalProperties.toList =
      [','].intercalate ((spelling.sortedClauses.map .clause).map SpelledEntry.text) := by
  have hSorted : spelling.name.sortedProperties = spelling.sortedClauses.map Clause.property :=
    (List.map_mergeSort (f := Clause.property) fun _ _ _ _ => rfl).symm
  rw [canonicalProperties, hSorted, toList_propertiesText]

theorem mem_pairs_name {spelling : Spelling} {pair : String × String} :
    pair ∈ spelling.name.pairs ↔
      ∃ clause ∈ spelling.clauses, (clause.property.key, clause.property.value) = pair := by
  simp [pairs, name]

theorem mem_clauses_iff_pair {spelling : Spelling} (h : spelling.WellFormed) {clause : Clause}
    (hClause : clause.WellFormed) :
    clause ∈ spelling.clauses ↔
      (clause.property.key, clause.property.value) ∈ spelling.name.pairs := by
  rw [mem_pairs_name]
  constructor
  · exact fun hMem => ⟨clause, hMem, rfl⟩
  · rintro ⟨found, hMem, hEq⟩
    obtain ⟨hKey, hValue⟩ := Prod.mk.inj hEq
    rwa [← Clause.eq_of_pair (h.clause hMem) hClause hKey hValue]

theorem WellFormed.nodup_clauses {spelling : Spelling} (h : spelling.WellFormed) :
    spelling.clauses.Nodup :=
  List.Pairwise.of_map Clause.key (fun _ _ hNe hEq => hNe (congrArg Clause.key hEq)) h.keys

theorem WellFormed.eq_of_key {spelling : Spelling} (h : spelling.WellFormed)
    {clause other : Clause} (hClause : clause ∈ spelling.clauses)
    (hOther : other ∈ spelling.clauses) (hEq : clause.property.key = other.property.key) :
    clause = other := by
  have hKeys := List.pairwise_map.mp (nodup_map_key.mpr h.keys)
  have hNe : spelling.clauses.Pairwise fun a b => a.property.key = b.property.key → a = b :=
    hKeys.imp fun hNe hEq => absurd hEq hNe
  have hNe' : spelling.clauses.Pairwise fun a b => b.property.key = a.property.key → b = a :=
    hKeys.imp fun hNe hEq => absurd hEq.symm hNe
  exact hNe.forall_of_forall_of_flip (fun _ _ _ => rfl) hNe' hClause hOther hEq

/-- Clauses with the same pairs in any order are the same once sorted, as no key comes twice. -/
theorem sortedClauses_eq_iff {spelling other : Spelling} (h : spelling.WellFormed)
    (hOther : other.WellFormed) :
    spelling.sortedClauses = other.sortedClauses ↔
      ∀ pair, pair ∈ spelling.name.pairs ↔ pair ∈ other.name.pairs := by
  constructor
  · intro hEq pair
    have hPerm : spelling.clauses.Perm other.clauses :=
      spelling.sortedClauses_perm.symm.trans (hEq ▸ other.sortedClauses_perm)
    simp only [mem_pairs_name, hPerm.mem_iff]
  · intro hPairs
    have hMem (clause : Clause) : clause ∈ spelling.clauses ↔ clause ∈ other.clauses := by
      constructor
      · intro hClause
        have hWf := h.clause hClause
        rwa [mem_clauses_iff_pair hOther hWf, ← hPairs, ← mem_clauses_iff_pair h hWf]
      · intro hClause
        have hWf := hOther.clause hClause
        rwa [mem_clauses_iff_pair h hWf, hPairs, ← mem_clauses_iff_pair hOther hWf]
    have hPerm : spelling.sortedClauses.Perm other.sortedClauses :=
      spelling.sortedClauses_perm.trans
        (((List.perm_ext_iff_of_nodup h.nodup_clauses hOther.nodup_clauses).mpr hMem).trans
          other.sortedClauses_perm.symm)
    refine List.Perm.eq_of_pairwise ?_ spelling.pairwise_sortedClauses
      other.pairwise_sortedClauses hPerm
    intro clause next hClause hNext hLe hGe
    exact hOther.eq_of_key ((hMem clause).mp (spelling.sortedClauses_perm.mem_iff.mp hClause))
      (other.sortedClauses_perm.mem_iff.mp hNext) (String.le_antisymm hLe hGe)

theorem canonicalProperties_eq_iff {spelling other : Spelling} (h : spelling.WellFormed)
    (hOther : other.WellFormed) :
    spelling.name.canonicalProperties = other.name.canonicalProperties ↔
      spelling.sortedClauses = other.sortedClauses := by
  have hWf {s : Spelling} (hs : s.WellFormed) :
      ∀ entry ∈ s.sortedClauses.map SpelledEntry.clause, entry.WellFormed := by
    intro entry hEntry
    obtain ⟨clause, hClause, rfl⟩ := List.mem_map.mp hEntry
    exact hs.clause (s.sortedClauses_perm.mem_iff.mp hClause)
  rw [← String.toList_inj, canonicalProperties_name, canonicalProperties_name]
  constructor
  · intro hEq
    have hEntries := entries_eq_of_intercalate (hWf h) (hWf hOther) hEq
    exact (List.map_inj_right fun _ _ => SpelledEntry.clause.inj).mp hEntries
  · intro hEq
    rw [hEq]

end Spelling

/-- Names that are read have their canonical text in common, and their path, just when they name the
same bean; and the path tells the domain and the canonical properties. -/
theorem canonical_names_identify {text text' : String} {name name' : BeanName}
    (h : parse text = .ok name) (h' : parse text' = .ok name') :
    (name.SameBean name' ↔ name.canonicalText = name'.canonicalText) ∧
      (name.canonicalText = name'.canonicalText ↔ name.path = name'.path) ∧
      readPath name.path = some (name.domain, name.canonicalProperties) := by
  obtain ⟨spelling, ⟨hSpelling, -⟩, rfl⟩ := spelling_of_parse h
  obtain ⟨spelling', ⟨hSpelling', -⟩, rfl⟩ := spelling_of_parse h'
  have hColon {s : Spelling} (hs : s.WellFormed) : ':' ∉ s.name.domain.toList := by
    simpa [Spelling.name] using hs.colon
  have hText := canonicalText_eq_iff (hColon hSpelling) (hColon hSpelling')
  refine ⟨?_, hText.trans (path_eq_iff _ _).symm, readPath_path _⟩
  rw [hText, Spelling.canonicalProperties_eq_iff hSpelling hSpelling',
    Spelling.sortedClauses_eq_iff hSpelling hSpelling']
  constructor
  · rintro ⟨hDomain, hPairs⟩
    exact ⟨hDomain, hPairs⟩
  · rintro ⟨hDomain, hPairs⟩
    exact ⟨hDomain, hPairs⟩

/-- The same properties in another order, with marks and slashes and separators in them. -/
theorem canonical_names_identify_reordered :
    let text := "a!/b:k=\"x,/!\",j=1"
    let text' := "a!/b:j=1,*,k=\"x,/!\""
    ∃ name name', parse text = .ok name ∧ parse text' = .ok name' ∧
      name.pairs = [("k", "\"x,/!\""), ("j", "1")] ∧
      name'.pairs = [("j", "1"), ("k", "\"x,/!\"")] ∧ name.canonicalText = name'.canonicalText ∧
      name.path = name'.path ∧ readPath name.path = some ("a!/b", name.canonicalProperties) := by
  intro text text'
  let k : Clause := ⟨['k'], .quoted [.plain 'x', .plain ',', .plain '/', .plain '!']⟩
  let j : Clause := ⟨['j'], .bare ['1']⟩
  have hSpells : Spelling.Spells ⟨['a', '!', '/', 'b'], [.clause k, .clause j]⟩ text := by
    decide +kernel
  have hSpells' : Spelling.Spells ⟨['a', '!', '/', 'b'], [.clause j, .star, .clause k]⟩ text' := by
    decide +kernel
  have hParse := parse_of_spells hSpells
  have hParse' := parse_of_spells hSpells'
  obtain ⟨hSame, hText, hRead⟩ := canonical_names_identify hParse hParse'
  have hEq := hSame.mp ⟨rfl, fun pair => by simp [pairs, Spelling.name, Spelling.clauses,
    SpelledEntry.clauses, or_comm]⟩
  exact ⟨_, _, hParse, hParse', rfl, rfl, hEq, hText.mp hEq, hRead⟩

end BeanBridge.BeanName
