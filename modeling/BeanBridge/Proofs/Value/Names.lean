import Mathlib.Data.List.Nodup
import BeanBridge.Proofs.Value.Endings

/-! Under which names the scalars of a value are reported.  Behind the name of the value stand the
keys that lead to the scalar, each behind a dot and with its first letter in upper case.  Neither
keeps keys apart: letters of either case become one, and a dot may come from a key.  Two scalars
have one name just when their paths read alike. -/

namespace BeanBridge.Value

/-- A path as it stands in a name, unless one of the keys is empty. -/
def pathText? : List String → Option String
  | [] => some ""
  | key :: path => (Text.capitalize? key).bind fun field =>
    (pathText? path).map ("." ++ field ++ ·)

/-- The path to a scalar that is reported, as it stands in its name. -/
def Ending.pathText? (ending : Ending) : Option String :=
  ending.value.scalar?.bind fun _ => Value.pathText? ending.path

/-- The paths to the scalars that are reported, as they stand in their names. -/
def pathTexts (levels : Nat) (value : Value) : List String :=
  (value.endings levels).filterMap Ending.pathText?

/-- One name of a field is the other, or begins it up to a dot. -/
def Continues (field other : String) : Prop :=
  other = field ∨ field.toList ++ ['.'] <+: other.toList

instance (field other : String) : Decidable (Continues field other) :=
  inferInstanceAs (Decidable (_ ∨ _))

/-- In no composite does the name of a field continue that of another. -/
def Apart (value : Value) : Prop :=
  ∀ path fields, value.Holds path (composite fields) →
    (fields.filterMap fun field => Text.capitalize? field.1).Pairwise fun field other =>
      ¬Continues field other ∧ ¬Continues other field

/-! ### Names and paths -/

theorem nameBehind?_eq (name : String) (path : List String) :
    nameBehind? name path = (pathText? path).map (name ++ ·) := by
  induction path generalizing name with
  | nil => simp [nameBehind?, pathText?]
  | cons key path ih =>
    rw [nameBehind?, pathText?]
    cases Text.capitalize? key with
    | none => rfl
    | some field =>
      rw [Option.bind_some, ih, Option.bind_some, Option.map_map]
      simp only [Function.comp_def, String.append_assoc]

theorem entry_name_eq (name : String) (ending : Ending) :
    (ending.entry? name).map Entry.name = ending.pathText?.map (name ++ ·) := by
  rw [Ending.entry?, Ending.seen?, Ending.pathText?, nameBehind?_eq]
  cases pathText? ending.path <;> cases ending.value.scalar? <;> rfl

/-- The names are the name of the value with the paths behind it. -/
theorem names_eq (name : String) (value : Value) (prior : List Entry) :
    (value.flattenOnto name prior).2.map Entry.name =
      prior.map Entry.name ++ (value.pathTexts maxNesting).map (name ++ ·) := by
  have hEntries : (value.flattenOnto name prior).2 =
      prior ++ (value.endings maxNesting).filterMap (Ending.entry? name) := by
    have hFlatten := flattenWithin_eq maxNesting name value
    rw [flattenOnto_eq, flatten, hFlatten, Ending.result, ← collected_result]
  rw [hEntries, List.map_append, List.map_filterMap, pathTexts, List.map_filterMap]
  simp only [entry_name_eq]

theorem append_injective (name : String) : Function.Injective (name ++ ·) := by
  intro text other hEq
  have hList := congrArg String.toList hEq
  simp only [String.toList_append] at hList
  exact String.toList_inj.mp (List.append_cancel_left hList)

/-! ### Values whose fields are apart -/

theorem apart_composite_iff {fields : List (String × Value)} :
    (composite fields).Apart ↔
      ((fields.filterMap fun field => Text.capitalize? field.1).Pairwise fun field other =>
        ¬Continues field other ∧ ¬Continues other field) ∧
      ∀ field ∈ fields, field.2.Apart :=
  forall_composite_iff

theorem apart_of_not_isComposite {value : Value} (h : ¬value.IsComposite) : value.Apart :=
  forall_composite_of_not_isComposite h

theorem pathTexts_succ (levels : Nat) (fields : List (String × Value)) :
    (composite fields).pathTexts (levels + 1) = fields.flatMap fun field =>
      (Text.capitalize? field.1).toList.flatMap fun first =>
        (field.2.pathTexts levels).map ("." ++ first ++ ·) := by
  rw [pathTexts, endings_succ, List.filterMap_flatMap]
  refine List.flatMap_congr fun field _ => ?_
  rw [List.filterMap_map]
  cases hKey : Text.capitalize? field.1 with
  | none =>
    refine List.filterMap_eq_nil_iff.mpr fun ending _ => ?_
    simp [Ending.pathText?, Ending.behind, pathText?, hKey]
  | some first =>
    rw [Option.toList_some, List.flatMap_singleton, pathTexts, List.map_filterMap]
    refine List.filterMap_congr fun ending _ => ?_
    cases hScalar : ending.value.scalar? with
    | none => simp [Ending.pathText?, Ending.behind, hScalar]
    | some scalar => simp [Ending.pathText?, Ending.behind, pathText?, hKey, hScalar]

/-- Behind the name of a field comes nothing, or a dot. -/
theorem starts_with_dot {levels : Nat} {value : Value} {text : String}
    (h : text ∈ value.pathTexts levels) : text = "" ∨ ∃ rest, text.toList = '.' :: rest := by
  obtain ⟨⟨path, leaf⟩, -, hText⟩ := List.mem_filterMap.mp h
  obtain ⟨_, -, hPath⟩ := Option.bind_eq_some_iff.mp hText
  cases path with
  | nil => exact .inl (Option.some.inj hPath).symm
  | cons key path =>
    obtain ⟨field, -, hRest⟩ := Option.bind_eq_some_iff.mp hPath
    obtain ⟨rest, -, rfl⟩ := Option.map_eq_some_iff.mp hRest
    exact .inr ⟨field.toList ++ rest.toList, by simp [String.toList_append]⟩

theorem continues_of_append {field other behind : String} {more rest : List Char}
    (hOther : other.toList = field.toList ++ more) (hBehind : behind.toList = more ++ rest)
    (hDot : behind = "" ∨ ∃ text, behind.toList = '.' :: text) : Continues field other := by
  cases more with
  | nil => exact .inl (String.toList_inj.mp (by rw [hOther, List.append_nil]))
  | cons c more =>
    rcases hDot with rfl | ⟨text, hText⟩
    · nomatch hBehind
    · obtain ⟨rfl, -⟩ := List.cons.inj (hText.symm.trans hBehind)
      exact .inr ⟨more, by rw [hOther, List.append_assoc]; rfl⟩

/-- Names of which neither continues the other differ, with anything behind them. -/
theorem append_ne_of_not_continues {field other behind behindOther : String}
    (h : ¬Continues field other ∧ ¬Continues other field)
    (hBehind : behind = "" ∨ ∃ text, behind.toList = '.' :: text)
    (hBehindOther : behindOther = "" ∨ ∃ text, behindOther.toList = '.' :: text) :
    field ++ behind ≠ other ++ behindOther := by
  intro hEq
  have hList := congrArg String.toList hEq
  rw [String.toList_append, String.toList_append, List.append_eq_append_iff] at hList
  -- Of two beginnings of one text, one begins the other.
  rcases hList with ⟨more, hMore, hRest⟩ | ⟨more, hMore, hRest⟩
  · exact h.1 (continues_of_append hMore hRest hBehind)
  · exact h.2 (continues_of_append hMore hRest hBehindOther)

theorem nodup_pathTexts_of_endings {levels : Nat} {value : Value}
    (h : value.endings levels = [⟨[], value⟩]) : (value.pathTexts levels).Nodup := by
  rw [pathTexts, h]
  cases hText : Ending.pathText? ⟨[], value⟩ <;> simp [hText]

/-- Paths through fields that are apart read differently. -/
theorem Apart.nodup_pathTexts {value : Value} (h : value.Apart) (levels : Nat) :
    (value.pathTexts levels).Nodup := by
  induction levels generalizing value with
  | zero => exact nodup_pathTexts_of_endings (by cases value <;> rfl)
  | succ levels ih =>
    by_cases hComposite : value.IsComposite
    · obtain ⟨fields, rfl⟩ := isComposite_iff.mp hComposite
      obtain ⟨hHere, hFields⟩ := apart_composite_iff.mp h
      rw [List.pairwise_filterMap] at hHere
      rw [pathTexts_succ, List.nodup_flatMap]
      constructor
      -- Behind one field the paths differ further on, and behind two they differ at once.
      · intro field hMem
        cases Text.capitalize? field.1 with
        | none => exact List.nodup_nil
        | some first =>
          rw [Option.toList_some, List.flatMap_singleton]
          exact (ih (hFields field hMem)).map (append_injective _)
      · refine hHere.imp fun hApart text hText hOther => ?_
        simp only [List.mem_flatMap, Option.mem_toList, List.mem_map] at hText hOther
        obtain ⟨first, hFirst, behind, hBehind, rfl⟩ := hText
        obtain ⟨other, hOther, behindOther, hBehindOther, hEq⟩ := hOther
        rw [String.append_assoc, String.append_assoc] at hEq
        exact append_ne_of_not_continues (hApart _ hFirst _ hOther) (starts_with_dot hBehind)
          (starts_with_dot hBehindOther) (append_injective "." hEq).symm
    · exact nodup_pathTexts_of_endings (endings_of_not_isComposite hComposite _)

/-- Whatever was collected before, the entries of a value are named by the paths to its scalars.  So
they have different names if and only if these paths read differently; and they do where in no
composite the name of a field continues that of another. -/
theorem flattened_names_differ_iff (name : String) (value : Value) (prior : List Entry) :
    let names := (value.flattenOnto name prior).2.map Entry.name
    names = prior.map Entry.name ++ (value.pathTexts maxNesting).map (name ++ ·) ∧
    ((names.drop prior.length).Nodup ↔ (value.pathTexts maxNesting).Nodup) ∧
    (value.Apart → (names.drop prior.length).Nodup) := by
  intro names
  have hNames : names = prior.map Entry.name ++ (value.pathTexts maxNesting).map (name ++ ·) :=
    names_eq name value prior
  have hDrop : names.drop prior.length = (value.pathTexts maxNesting).map (name ++ ·) := by
    rw [hNames, ← List.length_map, List.drop_left]
  have hNodup := List.nodup_map_iff (l := value.pathTexts maxNesting) (append_injective name)
  rw [hDrop]
  exact ⟨hNames, hNodup, fun hApart => hNodup.mpr (hApart.nodup_pathTexts maxNesting)⟩

/-- A dot in a key does no harm where nothing else reads so. -/
theorem flattened_names_differ_beside_dotted_key :
    let value := composite [("a.b", integer 1), ("b", composite [("a.b", text "x"), ("c", null)])]
    value.Apart ∧ ((value.flattenOnto "n" []).2.map Entry.name).Nodup := by
  intro value
  have hLeaves : (integer 1).Apart ∧ (text "x").Apart ∧ null.Apart :=
    ⟨apart_of_not_isComposite id, apart_of_not_isComposite id, apart_of_not_isComposite id⟩
  have hInner : (composite [("a.b", text "x"), ("c", null)]).Apart :=
    apart_composite_iff.mpr ⟨by decide +kernel, by simp [hLeaves]⟩
  have hApart : value.Apart :=
    apart_composite_iff.mpr ⟨by decide +kernel, by simp [hLeaves, hInner]⟩
  exact ⟨hApart, (flattened_names_differ_iff "n" value []).2.2 hApart⟩

/-- Keys that differ in the case of their first letter give one name.  So does a key with a dot
beside the composite that it names a field of. -/
theorem names_collide_by_case_and_by_dot :
    let byCase := composite [("A", integer 1), ("a", integer 2)]
    let byDot := composite [("a", composite [("b", integer 1)]), ("a.B", integer 2)]
    let names (value : Value) := (value.flattenOnto "n" []).2.map Entry.name
    (byCase.Ordered ∧ names byCase = ["n.A", "n.A"] ∧ ¬(names byCase).Nodup) ∧
      (byDot.Ordered ∧ names byDot = ["n.A.B", "n.A.B"] ∧ ¬(names byDot).Nodup) := by
  intro byCase byDot names
  have hLeaves : (integer 1).Ordered ∧ (integer 2).Ordered :=
    ⟨ordered_of_not_isComposite id, ordered_of_not_isComposite id⟩
  have hInner : (composite [("b", integer 1)]).Ordered :=
    ordered_composite_iff.mpr ⟨by decide +kernel, by simp [hLeaves]⟩
  refine ⟨⟨?_, by decide +kernel, by decide +kernel⟩, ⟨?_, by decide +kernel, by decide +kernel⟩⟩
  · exact ordered_composite_iff.mpr ⟨by decide +kernel, by simp [hLeaves]⟩
  · exact ordered_composite_iff.mpr ⟨by decide +kernel, by simp [hLeaves, hInner]⟩

end BeanBridge.Value
