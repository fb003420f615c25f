import BeanBridge.Proofs.Value.Leaves
import BeanBridge.Value.Collecting

/-! What flattening a value comes to, told from where the paths of keys into it end.  The scalars at the
ends are reported in order; what cannot be reported matters only if there is no scalar, and then the
last of it is the failure.  Nothing but the entries is left in the list they are collected in. -/

namespace BeanBridge.Value

/-! ### The ends of paths -/

/-- Where a path of keys ends, at a value that is not entered any more. -/
structure Ending where
  path : List String
  value : Value

/-- The ending behind one key more. -/
def Ending.behind (key : String) (ending : Ending) : Ending := ⟨key :: ending.path, ending.value⟩

/-- The endings in a value, when `levels` more composites may be entered: the fields of a composite
one after another, and all that is behind a field before the next. -/
def endings : Nat → Value → List Ending
  | levels + 1, composite fields =>
    fields.flatMap fun (key, value) => (endings levels value).map (·.behind key)
  | _, value => [⟨[], value⟩]

def IsComposite : Value → Prop
  | composite _ => True
  | _ => False

theorem isComposite_iff {value : Value} : value.IsComposite ↔ ∃ fields, value = composite fields := by
  cases value <;> simp [IsComposite]

/-- Why nothing is reported of a value with the qualified name that is not entered any more. -/
def defect? (name : String) : Value → Option Unusable
  | null => some (.null name)
  | composite _ => some (.unsupported name "composite nested too deep")
  | unsupported kind => some (.unsupported name kind)
  | double _ | integer _ | text _ | bool _ | date _ => none

/-- What is seen at an ending under its qualified name.  A path with an empty key has no name. -/
def Ending.seen? {α : Type} (look : String → Value → Option α) (name : String) (ending : Ending) :
    Option α :=
  (nameBehind? name ending.path).bind fun full => look full ending.value

/-- The entry of the scalar at an ending. -/
abbrev Ending.entry? : String → Ending → Option Entry :=
  Ending.seen? fun full value => value.scalar?.map (Entry.ofScalar full)

/-- Why nothing is reported at an ending. -/
abbrev Ending.fault? : String → Ending → Option Unusable := Ending.seen? defect?

theorem endings_of_not_isComposite {value : Value} (h : ¬value.IsComposite) (levels : Nat) :
    value.endings levels = [⟨[], value⟩] := by
  cases value with
  | composite fields => exact absurd trivial h
  | _ => cases levels <;> rfl

theorem endings_succ (levels : Nat) (fields : List (String × Value)) :
    (composite fields).endings (levels + 1) =
      fields.flatMap fun (key, value) => (value.endings levels).map (·.behind key) := rfl

theorem endings_cons (levels : Nat) (key : String) (value : Value) (fields : List (String × Value)) :
    (composite ((key, value) :: fields)).endings (levels + 1) =
      (value.endings levels).map (·.behind key) ++ (composite fields).endings (levels + 1) := rfl

theorem filterMap_seen?_behind {α : Type} (look : String → Value → Option α) (name key : String)
    (endings : List Ending) :
    (endings.map (·.behind key)).filterMap (Ending.seen? look name) =
      match Text.capitalize? key with
      | none => []
      | some field => endings.filterMap (Ending.seen? look (name ++ "." ++ field)) := by
  rw [List.filterMap_map]
  cases hKey : Text.capitalize? key with
  | none =>
    have hNone (ending : Ending) : Ending.seen? look name (ending.behind key) = none := by
      simp [Ending.seen?, Ending.behind, nameBehind?, hKey]
    exact List.filterMap_eq_nil_iff.mpr fun ending _ => hNone ending
  | some field =>
    refine congrArg (endings.filterMap ·) (funext fun ending => ?_)
    simp [Ending.seen?, Ending.behind, nameBehind?, hKey]

theorem nameBehind?_eq_none_iff (name : String) (path : List String) :
    nameBehind? name path = none ↔ "" ∈ path := by
  have hKey (key : String) : Text.capitalize? key = none ↔ key = "" := by
    rw [Text.capitalize?, ← String.toList_eq_nil_iff]
    cases key.toList <;> simp
  induction path generalizing name with
  | nil => simp [nameBehind?]
  | cons key path ih =>
    rw [nameBehind?, Option.bind_eq_none_iff, List.mem_cons, @eq_comm _ "" key]
    cases hField : Text.capitalize? key with
    | none => simp [(hKey key).mp hField]
    | some field =>
      have hSome : key ≠ "" := fun hEmpty => by simp [(hKey key).mpr hEmpty] at hField
      simp [ih, hSome]

theorem holds_nil_iff {value leaf : Value} : value.Holds [] leaf ↔ leaf = value := by
  constructor
  · rintro ⟨⟩
    rfl
  · rintro rfl
    exact .here leaf

theorem holds_cons_iff {value leaf : Value} {key : String} {path : List String} :
    value.Holds (key :: path) leaf ↔
      ∃ fields inner, value = composite fields ∧ (key, inner) ∈ fields ∧ inner.Holds path leaf := by
  constructor
  · rintro ⟨⟩
    exact ⟨_, _, rfl, ‹_›, ‹_›⟩
  · rintro ⟨fields, inner, rfl, hMem, hHolds⟩
    exact .field hMem hHolds

/-- The endings are the values behind paths that are no composites, or are composites with as many
around them as may be entered. -/
theorem mem_endings {levels : Nat} {value : Value} {ending : Ending} :
    ending ∈ value.endings levels ↔ value.Holds ending.path ending.value ∧
      (ending.path.length = levels ∨ ending.path.length < levels ∧ ¬ending.value.IsComposite) := by
  obtain ⟨path, leaf⟩ := ending
  induction levels generalizing value path with
  | zero =>
    have hHere : value.endings 0 = [⟨[], value⟩] := by cases value <;> rfl
    rw [hHere]
    cases path with
    | nil => simp [holds_nil_iff]
    | cons key path => simp
  | succ levels ih =>
    by_cases hComposite : value.IsComposite
    · obtain ⟨fields, rfl⟩ := isComposite_iff.mp hComposite
      rw [endings_succ, List.mem_flatMap]
      cases path with
      | nil =>
        simp only [holds_nil_iff, List.mem_map, Ending.behind]
        constructor
        · rintro ⟨field, -, ending, -, ⟨⟩⟩
        · rintro ⟨rfl, hLength | ⟨-, hLeaf⟩⟩
          · nomatch hLength
          · exact absurd hComposite hLeaf
      | cons key path =>
        rw [holds_cons_iff]
        constructor
        · rintro ⟨⟨_, inner⟩, hMem, hEnding⟩
          obtain ⟨_, hInner, ⟨⟩⟩ := List.mem_map.mp hEnding
          obtain ⟨hHolds, hEnds⟩ := (ih _).mp hInner
          exact ⟨⟨fields, inner, rfl, hMem, hHolds⟩, by simpa using hEnds⟩
        · rintro ⟨⟨_, inner, ⟨⟩, hMem, hHolds⟩, hEnds⟩
          have hInner := (ih path).mpr ⟨hHolds, by simpa using hEnds⟩
          exact ⟨(key, inner), hMem, List.mem_map_of_mem hInner⟩
    · rw [endings_of_not_isComposite hComposite]
      cases path with
      | nil => simp +contextual [holds_nil_iff, hComposite]
      | cons key path =>
        rw [holds_cons_iff]
        constructor
        · rintro (_ | ⟨_, ⟨⟩⟩)
        · rintro ⟨⟨fields, inner, rfl, -⟩, -⟩
          exact absurd trivial hComposite

/-! ### Flattening -/

theorem Fields.result_eq_ok_iff {entries found : List Entry} {failure : Option Unusable} :
    Fields.result entries failure = .ok found ↔ found = entries ∧ (entries = [] → failure = none) := by
  cases entries <;> cases failure <;> simp [Fields.result, eq_comm]

theorem Fields.result_eq_error_iff {entries : List Entry} {failure : Option Unusable} {e : Unusable} :
    Fields.result entries failure = .error e ↔ entries = [] ∧ failure = some e := by
  cases entries <;> cases failure <;> simp [Fields.result]

theorem Fields.result_congr {entries : List Entry} {failure failure' : Option Unusable}
    (h : entries = [] → failure = failure') :
    Fields.result entries failure = Fields.result entries failure' := by
  cases entries with
  | nil => rw [h rfl]
  | cons entry entries => rfl

/-- The entries and the failures at some endings, as the result of flattening. -/
def Ending.result (name : String) (endings : List Ending) : Except Unusable (List Entry) :=
  Fields.result (endings.filterMap (Ending.entry? name)) (endings.filterMap (Ending.fault? name)).getLast?

theorem flattenWithin_of_not_isComposite {value : Value} (h : ¬value.IsComposite) (levels : Nat)
    (name : String) :
    flattenWithin levels name value = Ending.result name (value.endings levels) := by
  rw [endings_of_not_isComposite h]
  cases value with
  | composite fields => exact absurd trivial h
  | _ => rfl

/-- The fields of a composite give the entries at its endings, and the last failure there if there
are none, once this is known of each field by itself. -/
theorem flattenFields_eq {levels : Nat}
    (h : ∀ name value, flattenWithin levels name value = Ending.result name (value.endings levels))
    (name : String) (fields : List (String × Value)) :
    let endings := (composite fields).endings (levels + 1)
    (flattenFields levels name fields).1 = endings.filterMap (Ending.entry? name) ∧
      (endings.filterMap (Ending.entry? name) = [] →
        (flattenFields levels name fields).2 = (endings.filterMap (Ending.fault? name)).getLast?) := by
  induction fields with
  | nil => exact ⟨rfl, fun _ => rfl⟩
  | cons field fields ih =>
    obtain ⟨key, value⟩ := field
    obtain ⟨hEntries, hFailure⟩ := ih
    simp only [endings_cons, List.filterMap_append, filterMap_seen?_behind]
    cases hKey : Text.capitalize? key with
    | none =>
      simp only [flattenFields, hKey, List.nil_append]
      exact ⟨hEntries, hFailure⟩
    | some field =>
      simp only [flattenFields, hKey, h, List.append_eq_nil_iff, List.getLast?_append]
      cases hResult : Ending.result (name ++ "." ++ field) (value.endings levels) with
      | ok entries =>
        obtain ⟨rfl, hNone⟩ := Fields.result_eq_ok_iff.mp hResult
        refine ⟨congrArg _ hEntries, ?_⟩
        rintro ⟨hEmpty, hBehind⟩
        rw [hFailure hBehind, hNone hEmpty, Option.or_none]
      | error e =>
        obtain ⟨hEmpty, hLast⟩ := Fields.result_eq_error_iff.mp hResult
        rw [hEmpty, hLast]
        exact ⟨hEntries, fun hNone => congrArg (·.or (some e)) (hFailure hNone.2)⟩

/-- Flattening a value comes to what there is at its endings. -/
theorem flattenWithin_eq (levels : Nat) (name : String) (value : Value) :
    flattenWithin levels name value = Ending.result name (value.endings levels) := by
  induction levels generalizing name value with
  | zero =>
    by_cases hComposite : value.IsComposite
    · obtain ⟨fields, rfl⟩ := isComposite_iff.mp hComposite
      rfl
    · exact flattenWithin_of_not_isComposite hComposite 0 name
  | succ levels ih =>
    by_cases hComposite : value.IsComposite
    · obtain ⟨fields, rfl⟩ := isComposite_iff.mp hComposite
      obtain ⟨hEntries, hFailure⟩ := flattenFields_eq ih name fields
      show Fields.result (flattenFields levels name fields).1 (flattenFields levels name fields).2 = _
      rw [hEntries]
      exact Fields.result_congr hFailure
    · exact flattenWithin_of_not_isComposite hComposite (levels + 1) name

/-! ### Collecting -/

/-- Entries found are collected behind those before; a failure leaves nothing behind. -/
def collected {ε : Type} (out : List Entry) : Except ε (List Entry) → Except ε Unit × List Entry
  | .ok entries => (.ok (), out ++ entries)
  | .error e => (.error e, out)

theorem collected_result (out entries : List Entry) (failure : Option Unusable) :
    (Fields.verdict out (out ++ entries) failure, out ++ entries) =
      collected out (Fields.result entries failure) := by
  cases failure with
  | none => cases entries <;> simp [Fields.verdict, Fields.result, collected]
  | some e => cases entries <;> simp [Fields.verdict, Fields.result, collected]

theorem collected_fst_eq_error_iff {out : List Entry} {result : Except Unusable (List Entry)}
    {e : Unusable} : (collected out result).1 = .error e ↔ result = .error e := by
  cases result <;> simp [collected]

theorem flattenFieldsOnto_eq {levels : Nat}
    (h : ∀ name value out, flattenOntoWithin levels name value out =
      collected out (flattenWithin levels name value))
    (name : String) (fields : List (String × Value)) (failure : Option Unusable)
    (out : List Entry) :
    flattenFieldsOnto levels name fields failure out =
      ((flattenFields levels name fields).2.or failure,
        out ++ (flattenFields levels name fields).1) := by
  induction fields generalizing failure out with
  | nil => simp [flattenFieldsOnto, flattenFields]
  | cons field fields ih =>
    obtain ⟨key, value⟩ := field
    rw [flattenFieldsOnto, flattenFields]
    cases hKey : Text.capitalize? key with
    | none => exact ih failure out
    | some field =>
      simp only [h]
      cases flattenWithin levels (name ++ "." ++ field) value with
      | ok entries => simp [collected, ih]
      | error e => simp [collected, ih]

/-- The list that is handed on holds what flattening by itself finds. -/
theorem flattenOntoWithin_eq (levels : Nat) (name : String) (value : Value) (out : List Entry) :
    flattenOntoWithin levels name value out = collected out (flattenWithin levels name value) := by
  induction levels generalizing name value out with
  | zero => cases value <;> rfl
  | succ levels ih =>
    by_cases hComposite : value.IsComposite
    · obtain ⟨fields, rfl⟩ := isComposite_iff.mp hComposite
      rw [flattenOntoWithin, flattenWithin]
      simp only [flattenFieldsOnto_eq ih, Option.or_none]
      exact collected_result _ _ _
    · cases value with
      | composite fields => exact absurd trivial hComposite
      | _ => rfl

theorem flattenOnto_eq (name : String) (value : Value) (out : List Entry) :
    value.flattenOnto name out = collected out (value.flatten name) :=
  flattenOntoWithin_eq maxNesting name value out

/-! ### Order -/

/-- The fields of all composites in the value are in the order of their keys, no two of one key. -/
def Ordered (value : Value) : Prop :=
  ∀ path fields, value.Holds path (composite fields) → fields.Pairwise (·.1 < ·.1)

/-- What is so of all composites in a composite is so of itself and in its fields. -/
theorem forall_composite_iff {P : List (String × Value) → Prop} {fields : List (String × Value)} :
    (∀ path inner, (composite fields).Holds path (composite inner) → P inner) ↔
      P fields ∧
        ∀ field ∈ fields, ∀ path inner, field.2.Holds path (composite inner) → P inner := by
  constructor
  · intro h
    refine ⟨h [] fields (.here _), ?_⟩
    rintro ⟨key, value⟩ hMem path inner hHolds
    exact h (key :: path) inner (.field hMem hHolds)
  · rintro ⟨hHere, hFields⟩ path inner hHolds
    cases hHolds with
    | here => exact hHere
    | field hMem hHolds => exact hFields _ hMem _ _ hHolds

theorem forall_composite_of_not_isComposite {P : List (String × Value) → Prop} {value : Value}
    (h : ¬value.IsComposite) :
    ∀ path inner, value.Holds path (composite inner) → P inner := by
  intro path inner hHolds
  cases hHolds with
  | here => exact absurd trivial h
  | field => exact absurd trivial h

theorem ordered_composite_iff {fields : List (String × Value)} :
    (composite fields).Ordered ↔
      fields.Pairwise (·.1 < ·.1) ∧ ∀ field ∈ fields, field.2.Ordered :=
  forall_composite_iff

theorem ordered_of_not_isComposite {value : Value} (h : ¬value.IsComposite) : value.Ordered :=
  forall_composite_of_not_isComposite h

/-- Where the fields are in the order of their keys, the endings are in the order of their paths, so
there is one at most behind each. -/
theorem pairwise_path_endings {value : Value} (h : value.Ordered) (levels : Nat) :
    ((value.endings levels).map (·.path)).Pairwise (· < ·) := by
  induction levels generalizing value with
  | zero =>
    have hHere : value.endings 0 = [⟨[], value⟩] := by cases value <;> rfl
    simp [hHere]
  | succ levels ih =>
    by_cases hComposite : value.IsComposite
    · obtain ⟨fields, rfl⟩ := isComposite_iff.mp hComposite
      obtain ⟨hKeys, hFields⟩ := ordered_composite_iff.mp h
      rw [endings_succ, List.pairwise_map, List.pairwise_flatMap]
      constructor
      · rintro ⟨key, inner⟩ hMem
        have hInner := ih (hFields _ hMem)
        rw [List.pairwise_map] at hInner ⊢
        exact hInner.imp fun hLess => List.cons_lt_cons_iff.mpr (.inr ⟨rfl, hLess⟩)
      · refine hKeys.imp ?_
        rintro ⟨key, inner⟩ ⟨key', inner'⟩ hLess ending hEnding ending' hEnding'
        obtain ⟨ending, -, rfl⟩ := List.mem_map.mp hEnding
        obtain ⟨ending', -, rfl⟩ := List.mem_map.mp hEnding'
        exact List.cons_lt_cons_iff.mpr (.inl hLess)
    · simp [endings_of_not_isComposite hComposite]

/-- Flattening keeps what was collected before, and puts behind it one entry for every scalar that
can be reached through keys that are not empty, with at most as many composites around it as may be
entered.  It fails if and only if there is no such scalar but something that cannot be reported; the
failure is that of the last of these, and nothing is collected then. -/
theorem flattenOnto_collects_reachable_scalars (name : String) (value : Value) (prior : List Entry) :
    let endings := value.endings maxNesting
    let entries := endings.filterMap (Ending.entry? name)
    let faults := endings.filterMap (Ending.fault? name)
    (value.flattenOnto name prior).2 = prior ++ entries ∧
    (∀ fault, (value.flattenOnto name prior).1 = .error fault ↔
      entries = [] ∧ faults.getLast? = some fault) ∧
    (∀ fault, (value.flattenOnto name prior).1 = .error fault →
      (value.flattenOnto name prior).2 = prior) ∧
    value.flatten name = (value.flattenOnto name prior).1.map (fun _ => entries) ∧
    (∀ ending, ending ∈ endings ↔ value.Holds ending.path ending.value ∧
      (ending.path.length = maxNesting ∨
        ending.path.length < maxNesting ∧ ¬ending.value.IsComposite)) ∧
    (∀ path, nameBehind? name path = none ↔ "" ∈ path) ∧
    (value.Ordered → (endings.map (·.path)).Pairwise (· < ·)) := by
  intro endings entries faults
  have hFlatten : value.flatten name = Fields.result entries faults.getLast? :=
    flattenWithin_eq maxNesting name value
  have hOnto : value.flattenOnto name prior =
      collected prior (Fields.result entries faults.getLast?) :=
    hFlatten ▸ flattenOnto_eq name value prior
  have hSecond : (value.flattenOnto name prior).2 = prior ++ entries := by
    rw [hOnto, ← collected_result]
  have hFirst (fault : Unusable) : (value.flattenOnto name prior).1 = .error fault ↔
      entries = [] ∧ faults.getLast? = some fault := by
    rw [hOnto, collected_fst_eq_error_iff, Fields.result_eq_error_iff]
  refine ⟨hSecond, hFirst, ?_, ?_, fun _ => mem_endings, nameBehind?_eq_none_iff name,
    fun hOrdered => pairwise_path_endings hOrdered maxNesting⟩
  · intro fault hFault
    rw [hSecond, ((hFirst fault).mp hFault).1, List.append_nil]
  · rw [hFlatten, hOnto]
    cases hResult : Fields.result entries faults.getLast? with
    | ok found => rw [(Fields.result_eq_ok_iff.mp hResult).1]; rfl
    | error e => rfl

/-- A `null` beside a text in a composite is passed over, and a key that is empty leads nowhere.  Where
all is of no use, the last is the failure. -/
theorem flattenOnto_collects_reachable_scalars_beside_null :
    let prior := [Entry.failed "p" "lost"]
    let mixed := composite [("", integer 1), ("a", null), ("b", composite [("c", null), ("d", text "x")])]
    let useless := composite [("a", null), ("b", composite []), ("c", unsupported "array")]
    (mixed.flattenOnto "n" prior).2 = prior ++ [.ofScalar "n.B.D" (.string "x")] ∧
      ((mixed.endings maxNesting).map (·.path)).Pairwise (· < ·) ∧
      (useless.flattenOnto "n" prior).1 = .error (.unsupported "n.C" "array") ∧
      (useless.flattenOnto "n" prior).2 = prior := by
  intro prior mixed useless
  obtain ⟨hMixed, -, -, -, -, -, hOrder⟩ := flattenOnto_collects_reachable_scalars "n" mixed prior
  obtain ⟨-, hFails, hKept, -⟩ := flattenOnto_collects_reachable_scalars "n" useless prior
  have hLeaves : (integer 1).Ordered ∧ null.Ordered ∧ (text "x").Ordered :=
    ⟨ordered_of_not_isComposite id, ordered_of_not_isComposite id, ordered_of_not_isComposite id⟩
  have hInner : (composite [("c", null), ("d", text "x")]).Ordered :=
    ordered_composite_iff.mpr ⟨by decide +kernel, by simp [hLeaves]⟩
  have hOrdered : mixed.Ordered :=
    ordered_composite_iff.mpr ⟨by decide +kernel, by simp [hLeaves, hInner]⟩
  have hUseless := (hFails (.unsupported "n.C" "array")).mpr ⟨by rfl, by rfl⟩
  exact ⟨hMixed, hOrder hOrdered, hUseless, hKept _ hUseless⟩

end BeanBridge.Value
