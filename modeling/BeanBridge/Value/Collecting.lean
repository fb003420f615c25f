import BeanBridge.Value.Flatten

/-! Flattening of values onto entries that were collected before.  One list takes up the entries of
one value after another; whether the fields of a composite gave any shows in its length. -/

namespace BeanBridge.Value

/-- What a composite comes to that found some entries collected and left others. -/
def Fields.verdict (before after : List Entry) : Option Unusable → Except Unusable Unit
  | some failure => if after.length = before.length then .error failure else .ok ()
  | none => .ok ()

mutual

/-- Appends the entries of a value with the qualified name, when `levels` more composites may be
entered. -/
def flattenOntoWithin (levels : Nat) (name : String) :
    Value → List Entry → Except Unusable Unit × List Entry
  | null, out => (.error (.null name), out)
  | double x, out => (.ok (), out ++ [.ofScalar name (.double (finite x))])
  | integer n, out => (.ok (), out ++ [.ofScalar name (.int n)])
  | text s, out => (.ok (), out ++ [.ofScalar name (.string s)])
  | bool b, out => (.ok (), out ++ [.ofScalar name (.bool b)])
  | date t, out => (.ok (), out ++ [.ofScalar name (.string t.text)])
  | composite fields, out =>
    match levels with
    | 0 => (.error (.unsupported name "composite nested too deep"), out)
    | levels + 1 =>
      let (failure, after) := flattenFieldsOnto levels name fields none out
      (Fields.verdict out after failure, after)
  | unsupported kind, out => (.error (.unsupported name kind), out)

/-- Appends the entries of the fields.  The failure kept is the one met last, or else the one from
before. -/
def flattenFieldsOnto (levels : Nat) (name : String) :
    List (String × Value) → Option Unusable → List Entry → Option Unusable × List Entry
  | [], failure, out => (failure, out)
  | (key, value) :: fields, failure, out =>
    match Text.capitalize? key with
    | none => flattenFieldsOnto levels name fields failure out
    | some field => match flattenOntoWithin levels (name ++ "." ++ field) value out with
      | (.ok (), out) => flattenFieldsOnto levels name fields failure out
      | (.error e, out) => flattenFieldsOnto levels name fields (some e) out

end

/-- Appends the entries of a value with the qualified name to those collected before. -/
def flattenOnto (name : String) (value : Value) (out : List Entry) :
    Except Unusable Unit × List Entry :=
  flattenOntoWithin maxNesting name value out

end BeanBridge.Value
