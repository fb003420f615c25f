import BeanBridge.Power

/-! Elements of a binary format: a tag, a length in its shortest form, and so many bytes. -/

namespace BeanBridge.Der

/-- An element, with what is between its ends. -/
structure Element where
  tag : UInt8
  content : List UInt8

/-- What reads something at the start of bytes, and leaves what follows. -/
abbrev Reader (α : Type) : Type := StateT (List UInt8) Option α

/-- The length at the start of the bytes, and what follows it. -/
def length? : List UInt8 → Option (Nat × List UInt8)
  | 0x81 :: n :: bytes => if n.toNat < 2 ^ 7 then none else some (n.toNat, bytes)
  | 0x82 :: m :: n :: bytes =>
    if m = 0 then none else some (m.toNat * 2 ^ 8 + n.toNat, bytes)
  | n :: bytes => if n.toNat < 2 ^ 7 then some (n.toNat, bytes) else none
  | [] => none

/-- The element at the start of the bytes, and what follows it.  No tag is longer than a byte. -/
def element? : List UInt8 → Option (Element × List UInt8)
  | [] => none
  | tag :: bytes => do
    if tag &&& 0x1f = 0x1f then none
    let (length, bytes) ← length? bytes
    if bytes.length < length then none
    else some (⟨tag, bytes.take length⟩, bytes.drop length)

namespace Reader

/-- What is read when nothing follows. -/
def whole? {α : Type} (reader : Reader α) (bytes : List UInt8) : Option α :=
  match reader.run bytes with
  | some (value, []) => some value
  | _ => none

end Reader

/-- The content of an element with the tag given. -/
def content (tag : UInt8) : Reader (List UInt8) := fun bytes => do
  let (element, rest) ← element? bytes
  if element.tag = tag then some (element.content, rest) else none

/-- Reads what an element with the tag given holds. -/
def within {α : Type} (tag : UInt8) (reader : Reader α) : Reader α := fun bytes => do
  let (inner, rest) ← (content tag).run bytes
  let value ← reader.whole? inner
  some (value, rest)

/-- An element with the tag given comes next. -/
def comes (tag : UInt8) : Reader Bool := fun bytes => some (bytes.head? == some tag, bytes)

/-- Nothing comes next. -/
def ends : Reader Bool := fun bytes => some (bytes.isEmpty, bytes)

/-- The content of an element with the tag given, if it comes next. -/
def content? (tag : UInt8) : Reader (Option (List UInt8)) := do
  if ← comes tag then some <$> content tag else pure none

/-- Reads the same until nothing comes next, at most `count` times. -/
def several? {α : Type} (reader : Reader α) : (count : Nat) → List UInt8 → Option (List α)
  | _, [] => some []
  | 0, _ => none
  | count + 1, bytes => do
    let (value, rest) ← reader.run bytes
    return value :: (← several? reader count rest)

/-- Reads the same until nothing comes next. -/
def several {α : Type} (reader : Reader α) : Reader (List α) := fun bytes => do
  let values ← several? reader bytes.length bytes
  some (values, [])

/-! Elements of single kinds, and their tags. -/

def sequenceTag : UInt8 := 0x30
def wholeTag : UInt8 := 0x02
def bitsTag : UInt8 := 0x03
def bytesTag : UInt8 := 0x04
def nameTag : UInt8 := 0x06
def flagTag : UInt8 := 0x01

/-- The tag of an element that is known by its number, and holds elements. -/
def numbered (n : UInt8) : UInt8 := 0xa0 + n

/-- Reads what a sequence holds. -/
def sequence {α : Type} (reader : Reader α) : Reader α := within sequenceTag reader

/-- The bytes of a whole number that is not negative, in its shortest form. -/
def unsigned : Reader (List UInt8) := do
  match ← content wholeTag with
  | [0] => pure [0]
  | 0 :: first :: rest => if first < 0x80 then failure else pure (first :: rest)
  | first :: rest => if first < 0x80 then pure (first :: rest) else failure
  | [] => failure

/-- A whole number of one byte that is not negative. -/
def small : Reader UInt8 := do
  match ← unsigned with
  | [n] => pure n
  | _ => failure

/-- The bytes of an element of bits with the tag given, the last of which is whole. -/
def bits (tag : UInt8) : Reader (List UInt8) := do
  match ← content tag with
  | 0 :: bytes => pure bytes
  | _ => failure

/-- A flag, unset when it is not there. -/
def flag : Reader Bool := do
  match ← content? flagTag with
  | none | some [0x00] => pure false
  | some [0xff] => pure true
  | some _ => failure

/-! Writing. -/

/-- An element with its tag and its length. -/
def written (tag : UInt8) (content : List UInt8) : List UInt8 :=
  let n := content.length
  let length : List UInt8 :=
    if n < 2 ^ 7 then [.ofNat n]
    else if n < 2 ^ 8 then [0x81, .ofNat n]
    else [0x82, .ofNat (n / 2 ^ 8), .ofNat n]
  tag :: length ++ content

/-- A whole number that is not negative, by its bytes in their shortest form. -/
def writtenUnsigned (bytes : List UInt8) : List UInt8 :=
  written wholeTag (if bytes.head?.any (0x80 ≤ ·) then 0 :: bytes else bytes)

/-- The number that bytes spell, the highest first. -/
def ofBytes (bytes : List UInt8) : Nat := bytes.foldl (fun n byte => n * 2 ^ 8 + byte.toNat) 0

/-- The last `width` bytes of a number, the highest first. -/
def toBytes (width n : Nat) : List UInt8 :=
  (List.range width).map fun i => .ofNat (n / 2 ^ (8 * (width - 1 - i)))

end BeanBridge.Der
