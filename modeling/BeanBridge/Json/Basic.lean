import BeanBridge.Double.Shortest

/-! JSON values with the members of objects in the order they were written, and their compact text.
-/

namespace BeanBridge

/-- A JSON value.  Whole numbers that fit 64 bits stay exact, all others are doubles. -/
inductive Json where
  | null
  | bool (value : Bool)
  | whole (value : Int)
  | real (value : Double)
  | string (value : String)
  | array (items : List Json)
  | object (members : List (String × Json))

namespace Json

/-- One character of a JSON string. -/
def escaped (c : Char) : List Char :=
  if c = '"' then ['\\', '"']
  else if c = '\\' then ['\\', '\\']
  else if c = '\x08' then ['\\', 'b']
  else if c = '\x0c' then ['\\', 'f']
  else if c = '\n' then ['\\', 'n']
  else if c = '\r' then ['\\', 'r']
  else if c = '\t' then ['\\', 't']
  else if c.toNat < 0x20 then
    ['\\', 'u', '0', '0', Nat.digitChar (c.toNat / 16), Nat.digitChar (c.toNat % 16)]
  else [c]

/-- A JSON string with its quotes. -/
def stringText (s : String) : String :=
  String.ofList ('"' :: (s.toList.flatMap escaped ++ ['"']))

mutual

/-- The compact text of a value. -/
def text : Json → String
  | null => "null"
  | bool b => if b then "true" else "false"
  | whole n => toString n
  | real x => x.json
  | string s => stringText s
  | array items => "[" ++ itemsText items ++ "]"
  | object members => "\x7b" ++ membersText members ++ "\x7d"

/-- The texts of the items, with commas between them. -/
def itemsText : List Json → String
  | [] => ""
  | [item] => item.text
  | item :: items => item.text ++ "," ++ itemsText items

/-- The members as keys and values, with commas between them. -/
def membersText : List (String × Json) → String
  | [] => ""
  | [(key, value)] => stringText key ++ ":" ++ value.text
  | (key, value) :: members => stringText key ++ ":" ++ value.text ++ "," ++ membersText members

end

/-- The member of an object with the given key. -/
def get? (key : String) : Json → Option Json
  | object members => members.lookup key
  | _ => none

/-- The text of a JSON string. -/
def asString? : Json → Option String
  | string s => some s
  | _ => none

/-- Puts a member into an object: in its old place if the key was there, else at the end. -/
def put (key : String) (value : Json) : List (String × Json) → List (String × Json)
  | [] => [(key, value)]
  | (k, v) :: members =>
    if k = key then (key, value) :: members else (k, v) :: put key value members

end Json

end BeanBridge
