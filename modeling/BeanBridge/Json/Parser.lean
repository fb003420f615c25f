import BeanBridge.Json.Number
import BeanBridge.Text.Hex

/-! Reading JSON text: the strict grammar, blanks allowed around every token, the last of equal keys
winning, and arrays and objects nested at most 127 deep. -/

namespace BeanBridge.Json

def isBlank (c : Char) : Bool := c == ' ' || c == '\t' || c == '\n' || c == '\r'

def skipBlanks (text : List Char) : List Char := text.dropWhile isBlank

/-- The number spelled by four hexadecimal digits. -/
def hex4? : List Char → Option (Nat × List Char)
  | a :: b :: c :: d :: text => do
    let value := (((← Hex.digit? a) * 16 + (← Hex.digit? b)) * 16 + (← Hex.digit? c)) * 16
    some (value + (← Hex.digit? d), text)
  | _ => none

/-- The character after `\u`: four digits, or a pair of surrogates in two escapes. -/
def unicodeEscape? (text : List Char) : Option (Char × List Char) := do
  let (unit, text) ← hex4? text
  if unit < 0xd800 ∨ 0xdfff < unit then some (Char.ofNat unit, text)
  else if 0xdc00 ≤ unit then none
  else match text with
    | '\\' :: 'u' :: text =>
      let (low, text) ← hex4? text
      if 0xdc00 ≤ low ∧ low ≤ 0xdfff then
        some (Char.ofNat (0x10000 + (unit - 0xd800) * 0x400 + (low - 0xdc00)), text)
      else none
    | _ => none

/-- The character of an escape, after its backslash. -/
def escape? : List Char → Option (Char × List Char)
  | '"' :: text => some ('"', text)
  | '\\' :: text => some ('\\', text)
  | '/' :: text => some ('/', text)
  | 'b' :: text => some ('\x08', text)
  | 'f' :: text => some ('\x0c', text)
  | 'n' :: text => some ('\n', text)
  | 'r' :: text => some ('\r', text)
  | 't' :: text => some ('\t', text)
  | 'u' :: text => unicodeEscape? text
  | _ => none

/-- The rest of a string after its opening quote, `read` holding what was read, backwards. -/
def stringTail? (fuel : Nat) (read : List Char) (text : List Char) : Option (String × List Char) :=
  match fuel with
  | 0 => none
  | fuel + 1 => match text with
    | [] => none
    | '"' :: text => some (String.ofList read.reverse, text)
    | '\\' :: text => do
      let (c, text) ← escape? text
      stringTail? fuel (c :: read) text
    | c :: text => if c.toNat < 0x20 then none else stringTail? fuel (c :: read) text

/-- The string at the start of the text. -/
def string? : List Char → Option (String × List Char)
  | '"' :: text => stringTail? (text.length + 1) [] text
  | _ => none

/-- The items of an array after the first, up to the closing bracket. -/
def itemsTail? (value : List Char → Option (Json × List Char)) (fuel : Nat) (read : List Json)
    (text : List Char) : Option (List Json × List Char) :=
  match fuel with
  | 0 => none
  | fuel + 1 => match skipBlanks text with
    | ']' :: text => some (read.reverse, text)
    | ',' :: text => do
      let (item, text) ← value text
      itemsTail? value fuel (item :: read) text
    | _ => none

/-- A key, a colon and a value. -/
def member? (value : List Char → Option (Json × List Char)) (text : List Char) :
    Option ((String × Json) × List Char) := do
  let (key, text) ← string? (skipBlanks text)
  match skipBlanks text with
  | ':' :: text =>
    let (item, text) ← value text
    some ((key, item), text)
  | _ => none

/-- The members of an object after the first, up to the closing brace, `read` holding what was read,
backwards. -/
def membersTail? (value : List Char → Option (Json × List Char)) (fuel : Nat)
    (read : List (String × Json)) (text : List Char) : Option (List (String × Json) × List Char) :=
  match fuel with
  | 0 => none
  | fuel + 1 => match skipBlanks text with
    | '\x7d' :: text => some (read.reverse, text)
    | ',' :: text => do
      let (member, text) ← member? value text
      membersTail? value fuel (member :: read) text
    | _ => none

/-- The members of an object behind its opening brace, as they are written. -/
def members? (value : List Char → Option (Json × List Char)) (text : List Char) :
    Option (List (String × Json) × List Char) :=
  match skipBlanks text with
  | '\x7d' :: text => some ([], text)
  | _ => do
    let (first, text) ← member? value text
    membersTail? value (text.length + 1) [first] text

/-- The object of members as they are written: of several with one key the last value counts, in the
place of the first. -/
def ofMembers (members : List (String × Json)) : Json :=
  object (members.foldl (fun distinct (key, value) => put key value distinct) [])

/-- The value at the start of the text, with arrays and objects nested at most `depth` deep. -/
def value? : (depth : Nat) → List Char → Option (Json × List Char)
  | depth, text =>
    match skipBlanks text with
    | 'n' :: 'u' :: 'l' :: 'l' :: text => some (null, text)
    | 't' :: 'r' :: 'u' :: 'e' :: text => some (bool true, text)
    | 'f' :: 'a' :: 'l' :: 's' :: 'e' :: text => some (bool false, text)
    | '"' :: text => (string? ('"' :: text)).map fun (s, text) => (string s, text)
    | '[' :: text =>
      match depth with
      | 0 => none
      | depth + 1 => match skipBlanks text with
        | ']' :: text => some (array [], text)
        | _ => do
          let (item, text) ← value? depth text
          let (items, text) ← itemsTail? (value? depth) (text.length + 1) [item] text
          some (array items, text)
    | '\x7b' :: text =>
      match depth with
      | 0 => none
      | depth + 1 =>
        (members? (value? depth) text).map fun (members, text) => (ofMembers members, text)
    | text => number? text
termination_by structural depth => depth

/-- The deepest nesting that is read. -/
def maxDepth : Nat := 127

/-- What was read, if nothing is left of the text. -/
def whole? {α : Type} (read : α × List Char) : Option α :=
  if skipBlanks read.2 = [] then some read.1 else none

def parse? (text : String) : Option Json := do whole? (← value? maxDepth text.toList)

/-- The members of the object that a whole text is, as they are written: with repeated keys. -/
def parseMembers? (text : String) : Option (List (String × Json)) := do
  match skipBlanks text.toList with
  | '\x7b' :: text => whole? (← members? (value? (maxDepth - 1)) text)
  | _ => none

end BeanBridge.Json
