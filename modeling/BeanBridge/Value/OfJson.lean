import BeanBridge.Calendar.Timestamp
import BeanBridge.Json.Basic
import BeanBridge.Value.Basic

/-! Attribute values from JSON.  Whole numbers keep their low 64 bits, strings that are timestamps
become dates, objects become composites, and arrays are not supported. -/

namespace BeanBridge.Value

mutual

/-- The value that a JSON value stands for. -/
def ofJson : Json → Value
  | .null => null
  | .bool b => bool b
  | .whole n => integer (Int64.ofInt n)
  | .real x => double x
  | .string s => match Calendar.instant? s with
    | some t => date t
    | none => text s
  | .array _ => unsupported "array"
  | .object members => ofFields (ofMembers members)

/-- The fields that the members of an object stand for. -/
def ofMembers : List (String × Json) → List (String × Value)
  | [] => []
  | (key, item) :: members => (key, ofJson item) :: ofMembers members

end

end BeanBridge.Value
