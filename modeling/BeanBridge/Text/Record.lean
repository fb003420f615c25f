import BeanBridge.Text.Quoted

/-! Records as text: a name, and the fields with their labels between braces. -/

namespace BeanBridge.Text

/-- The fields of a record as text, `..` behind them when more are left unsaid. -/
def record (name : String) (fields : List (String × String)) (isAbridged : Bool) : String :=
  let shown := fields.map fun (label, value) => label ++ ": " ++ value
  let shown := if isAbridged then shown ++ [".."] else shown
  if shown.isEmpty then name else name ++ " \x7b " ++ ", ".intercalate shown ++ " \x7d"

/-- A truth value as text: `true` or `false`. -/
def flag (b : Bool) : String := if b then "true" else "false"

/-- An optional value as text: `None`, or the value within `Some`. -/
def option : Option String → String
  | none => "None"
  | some value => "Some(" ++ value ++ ")"

end BeanBridge.Text
