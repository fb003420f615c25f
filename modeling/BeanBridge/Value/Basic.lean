import BeanBridge.Calendar.Instant
import BeanBridge.Double.Basic

/-! Attribute values as an endpoint delivers them. -/

namespace BeanBridge

/-- The value of an attribute. -/
inductive Value where
  | null
  | double (value : Double)
  | integer (value : Int64)
  | text (value : String)
  | bool (value : Bool)
  | date (value : Instant)
  /-- Named fields, in the order of their names. -/
  | composite (fields : List (String × Value))
  /-- A value of a kind that cannot be reported, with the name of the kind. -/
  | unsupported (kind : String)

namespace Value

/-- What kind of value it is, in a word. -/
def kind : Value → String
  | null => "null"
  | double _ => "double"
  | integer _ => "long"
  | text _ => "string"
  | bool _ => "boolean"
  | date _ => "date"
  | composite _ => "composite"
  | unsupported kind => kind

/-- Puts a field where its name belongs, in the place of a field of the same name. -/
def insertField {α : Type} (key : String) (value : α) : List (String × α) → List (String × α)
  | [] => [(key, value)]
  | (k, v) :: fields =>
    if key < k then (key, value) :: (k, v) :: fields
    else if key = k then (key, value) :: fields
    else (k, v) :: insertField key value fields

/-- Fields in the order of their names, the last of equal names kept. -/
def sortFields {α : Type} (fields : List (String × α)) : List (String × α) :=
  fields.foldl (fun sorted (key, value) => insertField key value sorted) []

/-- The composite of the fields given in any order. -/
def ofFields (fields : List (String × Value)) : Value := composite (sortFields fields)

end Value

end BeanBridge
