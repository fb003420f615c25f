import BeanBridge.Entry
import BeanBridge.Text.Upper
import BeanBridge.Value.Basic

/-! Flattening of values into entries.  A scalar gives one entry; a composite gives the entries of
its fields, each named after the field with its first letter in upper case.  Fields that fail are
left out as long as any field gives an entry. -/

namespace BeanBridge.Value

/-- Why a value gives no entry; both carry the qualified name of the value. -/
inductive Unusable where
  | null (name : String)
  | unsupported (name kind : String)
  deriving DecidableEq

/-- The failure in words. -/
def Unusable.message : Unusable → String
  | null name => "found a null value for bean: " ++ name
  | unsupported name kind => "unsupported data type (" ++ kind ++ ") for bean " ++ name

/-- How many composites may enclose one another. -/
def maxNesting : Nat := 16

/-- The finite number that stands for `x`: zero for what is no number, the least positive number for
negative infinity and the greatest number for infinity. -/
def finite (x : Double) : Double :=
  if x.isNaN then .zero
  else if x.isInfinite then (if x.isNegative then .smallest else .largest)
  else x

/-- What is known of the fields of a composite: their entries, or else their last failure. -/
def Fields.result (entries : List Entry) (failure : Option Unusable) :
    Except Unusable (List Entry) :=
  match entries, failure with
  | [], some failure => .error failure
  | entries, _ => .ok entries

mutual

/-- The entries of a value with the qualified name, when `levels` more composites may be entered. -/
def flattenWithin (levels : Nat) (name : String) : Value → Except Unusable (List Entry)
  | null => .error (.null name)
  | double x => .ok [.ofScalar name (.double (finite x))]
  | integer n => .ok [.ofScalar name (.int n)]
  | text s => .ok [.ofScalar name (.string s)]
  | bool b => .ok [.ofScalar name (.bool b)]
  | date t => .ok [.ofScalar name (.string t.text)]
  | composite fields =>
    match levels with
    | 0 => .error (.unsupported name "composite nested too deep")
    | levels + 1 =>
      let (entries, failure) := flattenFields levels name fields
      Fields.result entries failure
  | unsupported kind => .error (.unsupported name kind)

/-- The entries of the fields, and the last failure among them.  A field without a name is passed
over. -/
def flattenFields (levels : Nat) (name : String) :
    List (String × Value) → List Entry × Option Unusable
  | [] => ([], none)
  | (key, value) :: fields =>
    let (behind, failure) := flattenFields levels name fields
    match Text.capitalize? key with
    | none => (behind, failure)
    | some field => match flattenWithin levels (name ++ "." ++ field) value with
      | .ok entries => (entries ++ behind, failure)
      | .error e => (behind, failure.or (some e))

end

/-- The entries of a value with the qualified name. -/
def flatten (name : String) (value : Value) : Except Unusable (List Entry) :=
  flattenWithin maxNesting name value

end BeanBridge.Value
