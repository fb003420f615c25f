import BeanBridge.Text.Hex

/-! Percent-encoding: a byte as `%` and two digits. -/

namespace BeanBridge.Percent

def escape (byte : UInt8) : List Char :=
  ['%', Hex.upperDigit (byte.toNat / 16), Hex.upperDigit (byte.toNat % 16)]

/-- Escapes the characters of a set, and with them every character beyond ASCII. -/
def encode (isEscaped : Char → Bool) (text : List Char) : List Char :=
  text.flatMap fun c =>
    if c.toNat < 0x80 && !isEscaped c then [c] else (String.utf8EncodeChar c).flatMap escape

/-- The byte of two digits. -/
def byte? (high low : UInt8) : Option UInt8 := do
  let high ← Hex.digit? (Char.ofNat high.toNat)
  let low ← Hex.digit? (Char.ofNat low.toNat)
  return .ofNat (high * 16 + low)

/-- Undoes escapes; a `%` without two digits behind it stands for itself. -/
def decode : List UInt8 → List UInt8
  | [] => []
  | [byte] => [byte]
  | [first, second] => [first, second]
  | first :: high :: low :: bytes =>
    if first = 0x25 then
      match byte? high low with
      | some byte => byte :: decode bytes
      | none => first :: decode (high :: low :: bytes)
    else first :: decode (high :: low :: bytes)

/-- The text of an escaped text, if what it stands for is one. -/
def decodeText? (text : List Char) : Option String :=
  String.fromUTF8? ⟨(decode (text.flatMap String.utf8EncodeChar)).toArray⟩

/-! The sets of characters that are escaped in the parts of a URL. -/

def isControl (c : Char) : Bool := c.toNat < 0x20 || c == '\x7f'

def inFragment (c : Char) : Bool := isControl c || [' ', '"', '<', '>', '\x60'].elem c

def inPath (c : Char) : Bool := inFragment c || ['#', '?', '\x7b', '\x7d'].elem c

def inUserInfo (c : Char) : Bool :=
  inPath c || ['/', ':', ';', '=', '@', '[', '\\', ']', '^', '|'].elem c

def inQuery (c : Char) : Bool := isControl c || [' ', '"', '#', '<', '>'].elem c

end BeanBridge.Percent
