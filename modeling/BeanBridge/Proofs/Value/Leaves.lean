import BeanBridge.Value.Flatten

/-! Where the entries of a value come from.  Composites hold values behind keys, and those may be
composites again; each entry reports one scalar that the value holds behind a path of keys. -/

namespace BeanBridge.Value

/-- The value holds the other behind the path. -/
inductive Holds : Value → List String → Value → Prop
  | here (value : Value) : Holds value [] value
  | field {fields : List (String × Value)} {key : String} {value leaf : Value} {path : List String} :
    (key, value) ∈ fields → Holds value path leaf → Holds (composite fields) (key :: path) leaf

/-- What is reported of a value by itself, if anything can be. -/
def scalar? : Value → Option Scalar
  | double x => some (.double (finite x))
  | integer n => some (.int n)
  | text s => some (.string s)
  | bool b => some (.bool b)
  | date t => some (.string t.text)
  | null | composite _ | unsupported _ => none

/-- The name of what is behind the path, unless one of the keys is empty. -/
def nameBehind? (name : String) : List String → Option String
  | [] => some name
  | key :: path => (Text.capitalize? key).bind fun field => nameBehind? (name ++ "." ++ field) path

/-- The entry reports a scalar that the value holds. -/
inductive Reports (name : String) (value : Value) : Entry → Prop
  | leaf {path : List String} {leaf : Value} {scalar : Scalar} {full : String} :
    Holds value path leaf → leaf.scalar? = some scalar → nameBehind? name path = some full →
    Reports name value (.ofScalar full scalar)

theorem Reports.field {name key field : String} {value : Value} {fields : List (String × Value)}
    {entry : Entry} (h : Reports (name ++ "." ++ field) value entry) (hMem : (key, value) ∈ fields)
    (hKey : Text.capitalize? key = some field) : Reports name (composite fields) entry := by
  obtain ⟨hHolds, hScalar, hName⟩ := h
  refine .leaf (.field hMem hHolds) hScalar ?_
  rw [nameBehind?, hKey]
  exact hName

theorem reports_self {name : String} {value : Value} {scalar : Scalar} {entries : List Entry}
    (hScalar : value.scalar? = some scalar)
    (h : Except.ok [Entry.ofScalar name scalar] = (.ok entries : Except Unusable _)) :
    ∀ entry ∈ entries, Reports name value entry := by
  obtain rfl := Except.ok.inj h
  exact List.forall_mem_singleton.mpr (.leaf (.here value) hScalar rfl)

theorem reports_flattenWithin :
    (∀ levels name value, ∀ entries, flattenWithin levels name value = .ok entries →
      ∀ entry ∈ entries, Reports name value entry) ∧
    (∀ levels name fields, ∀ entry ∈ (flattenFields levels name fields).1,
      Reports name (composite fields) entry) := by
  have hBehind {name : String} {head : String × Value} {fields : List (String × Value)}
      {entry : Entry} (h : Reports name (composite fields) entry) :
      Reports name (composite (head :: fields)) entry := by
    obtain ⟨hHolds, hScalar, hName⟩ := h
    cases hHolds with
    | here => nomatch hScalar
    | field hMem hHolds =>
      exact .leaf (.field (List.mem_cons_of_mem _ hMem) hHolds) hScalar hName
  apply flattenWithin.mutual_induct
  -- Nothing, or a value that is reported by itself.
  case case1 => simp [flattenWithin]
  case case2 => exact fun _ _ _ _ => reports_self rfl
  case case3 => exact fun _ _ _ _ => reports_self rfl
  case case4 => exact fun _ _ _ _ => reports_self rfl
  case case5 => exact fun _ _ _ _ => reports_self rfl
  case case6 => exact fun _ _ _ _ => reports_self rfl
  -- A composite that lies too deep, one that can be entered, and what is not supported.
  case case7 => simp [flattenWithin]
  case case8 =>
    intro name fields levels entries failure hFields ih found h
    rw [hFields] at ih
    simp only [flattenWithin, hFields, Fields.result] at h
    split at h
    · cases h
    · obtain rfl := Except.ok.inj h
      exact ih
  case case9 => simp [flattenWithin]
  case case10 => simp [flattenFields]
  -- A field without a name, one that gives entries, and one that fails.
  case case11 =>
    intro levels name key value fields entries failure hFields hKey ih entry hEntry
    simp only [flattenFields, hKey] at hEntry
    exact hBehind (ih entry hEntry)
  case case12 =>
    intro levels name key value fields entries failure hFields field hKey found hFound ih ihValue
      entry hEntry
    simp only [flattenFields, hKey, hFound] at hEntry
    rcases List.mem_append.mp hEntry with hFront | hBack
    · exact (ihValue found hFound entry hFront).field List.mem_cons_self hKey
    · exact hBehind (ih entry hBack)
  case case13 =>
    intro levels name key value fields entries failure hFields field hKey e hFound ih ihValue
      entry hEntry
    simp only [flattenFields, hKey, hFound] at hEntry
    exact hBehind (ih entry hEntry)

/-- Every entry of a value reports a scalar that the value holds. -/
theorem reports_flatten {name : String} {value : Value} {entries : List Entry}
    (h : value.flatten name = .ok entries) : ∀ entry ∈ entries, Reports name value entry :=
  reports_flattenWithin.1 _ _ _ _ h

theorem isError_flatten {name : String} {value : Value} {entries : List Entry}
    (h : value.flatten name = .ok entries) : ∀ entry ∈ entries, entry.isError = false := by
  intro entry hEntry
  cases reports_flatten h entry hEntry with
  | @leaf path leaf scalar full hHolds hScalar hName => cases scalar <;> rfl

/-! ### Finite numbers -/

theorem isFinite_finite (x : Double) : (finite x).isFinite = true := by
  rw [finite]
  split
  · decide
  · split
    · split <;> decide
    · simp_all [Double.isFinite, Double.isNaN, Double.isInfinite]

theorem finite_of_isFinite {x : Double} (h : x.isFinite = true) : finite x = x := by
  have hField : x.exponentField ≠ 2047 := by simpa [Double.isFinite] using h
  simp [finite, Double.isNaN, Double.isInfinite, hField]

/-- Whatever number was delivered, a finite one is reported. -/
theorem isFinite_of_scalar? {leaf : Value} {x : Double} (h : leaf.scalar? = some (.double x)) :
    x.isFinite = true := by
  cases leaf with
  | double y =>
    obtain rfl : finite y = x := by simpa [scalar?] using h
    exact isFinite_finite y
  | _ => nomatch h

end BeanBridge.Value
