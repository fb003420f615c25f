import BeanBridge.Config.Fields
import BeanBridge.Json.Basic

/-! The settings of a connection from JSON: an object with the fields by name, other members being
passed over, or an array with the fields in their order. -/

namespace BeanBridge.Config

/-- How JSON holds the fields. -/
def jsonReader : Reader Json where
  text? := Json.asString?
  whole?
    | .whole n => some n
    | _ => none
  flag?
    | .bool b => some b
    | _ => none

/-- The settings in a JSON value. -/
def ofJson? : Json → Option Config
  | .object members =>
    ofFields jsonReader fun position => (fieldNames[position]?).bind (members.lookup ·)
  | .array items =>
    if items.length ≤ fieldNames.length then ofFields jsonReader (items[·]?) else none
  | _ => none

end BeanBridge.Config
