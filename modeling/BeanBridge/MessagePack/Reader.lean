import BeanBridge.MessagePack.Item

/-! Reading MessagePack: any form of a value is accepted, and what follows the value is left.
Containers nest to a bounded depth, and an extension counts as one. -/

namespace BeanBridge.MessagePack

/-- The number spelled by bytes, the highest first. -/
def ofBigEndian (bytes : List UInt8) : Nat := bytes.foldl (fun n byte => n * 2 ^ 8 + byte.toNat) 0

/-- The first `n` bytes, and those behind them. -/
def take? (n : Nat) (bytes : List UInt8) : Option (List UInt8 × List UInt8) :=
  let (front, rest) := bytes.splitAt n
  if front.length = n then some (front, rest) else none

/-- The number in the first `width` bytes. -/
def number? (width : Nat) (bytes : List UInt8) : Option (Nat × List UInt8) :=
  (take? width bytes).map fun (front, rest) => (ofBigEndian front, rest)

/-- The number `n` of `width` bytes as a signed one. -/
def toSigned (width n : Nat) : Int64 :=
  .ofInt (if n < 2 ^ (8 * width - 1) then n else (n : Int) - 2 ^ (8 * width))

/-- What the first byte of a value says. -/
inductive Head where
  /-- The value is complete. -/
  | whole (item : Item)
  /-- A number of so many bytes follows. -/
  | number (width : Nat) (item : Nat → Item)
  /-- So many bytes follow, which `item` reads. -/
  | bytes (count : Nat) (item : ByteArray → Item)
  /-- A size of so many bytes follows, and then as many bytes as the size says. -/
  | sizedBytes (width : Nat) (item : ByteArray → Item)
  /-- The type of an extension follows, and so many bytes. -/
  | extension (count : Nat)
  | sizedExtension (width : Nat)
  | items (count : Nat)
  | sizedItems (width : Nat)
  | entries (count : Nat)
  | sizedEntries (width : Nat)
  /-- No value begins with this byte. -/
  | none

/-- The meaning of a first byte that names a form and holds nothing else. -/
def formOf : (byte : Nat) → Head
  | 0xc0 => .whole .nil
  | 0xc2 => .whole (.bool false)
  | 0xc3 => .whole (.bool true)
  | 0xc4 => .sizedBytes 1 .binary
  | 0xc5 => .sizedBytes 2 .binary
  | 0xc6 => .sizedBytes 4 .binary
  | 0xc7 => .sizedExtension 1
  | 0xc8 => .sizedExtension 2
  | 0xc9 => .sizedExtension 4
  | 0xca => .number 4 fun n => .single (.ofNat n)
  | 0xcb => .number 8 fun n => .double ⟨.ofNat n⟩
  | 0xcc => .number 1 fun n => .unsigned (.ofNat n) .one
  | 0xcd => .number 2 fun n => .unsigned (.ofNat n) .two
  | 0xce => .number 4 fun n => .unsigned (.ofNat n) .four
  | 0xcf => .number 8 fun n => .unsigned (.ofNat n) .eight
  | 0xd0 => .number 1 fun n => .signed (toSigned 1 n)
  | 0xd1 => .number 2 fun n => .signed (toSigned 2 n)
  | 0xd2 => .number 4 fun n => .signed (toSigned 4 n)
  | 0xd3 => .number 8 fun n => .signed (toSigned 8 n)
  | 0xd4 => .extension 1
  | 0xd5 => .extension 2
  | 0xd6 => .extension 4
  | 0xd7 => .extension 8
  | 0xd8 => .extension 16
  | 0xd9 => .sizedBytes 1 .text
  | 0xda => .sizedBytes 2 .text
  | 0xdb => .sizedBytes 4 .text
  | 0xdc => .sizedItems 2
  | 0xdd => .sizedItems 4
  | 0xde => .sizedEntries 2
  | 0xdf => .sizedEntries 4
  | _ => .none

/-- The meaning of the first byte of a value. -/
def headOf (byte : UInt8) : Head :=
  let n := byte.toNat
  if n < 0x80 then .whole (.unsigned (.ofNat n) .one)
  else if n < 0x90 then .entries (n - 0x80)
  else if n < 0xa0 then .items (n - 0x90)
  else if n < 0xc0 then .bytes (n - 0xa0) .text
  else if 0xe0 ≤ n then .whole (.signed (toSigned 1 n))
  else formOf n

/-- A way to read one value at the start of bytes. -/
abbrev ItemReader := List UInt8 → Option (Item × List UInt8)

/-- So many values, one behind the other; `read` holds those read before, backwards. -/
def items? (item : ItemReader) : (count : Nat) → List Item → List UInt8 →
    Option (List Item × List UInt8)
  | 0, read, bytes => some (read.reverse, bytes)
  | count + 1, read, bytes => do
    let (value, bytes) ← item bytes
    items? item count (value :: read) bytes

/-- So many entries, each key before its value. -/
def entries? (item : ItemReader) : (count : Nat) → List (Item × Item) → List UInt8 →
    Option (List (Item × Item) × List UInt8)
  | 0, read, bytes => some (read.reverse, bytes)
  | count + 1, read, bytes => do
    let (key, bytes) ← item bytes
    let (value, bytes) ← item bytes
    entries? item count ((key, value) :: read) bytes

/-- A size of so many bytes, and then what `read` reads of that size. -/
def sized (width : Nat) (read : Nat → ItemReader) : ItemReader := fun bytes => do
  let (count, bytes) ← number? width bytes
  read count bytes

def readBytes (item : ByteArray → Item) (count : Nat) : ItemReader := fun bytes =>
  (take? count bytes).map fun (front, rest) => (item ⟨front.toArray⟩, rest)

section Containers

-- How the values in a container are read; not at all where containers nest too deep.
variable (inner : Option ItemReader)

def readItems (count : Nat) : ItemReader := fun bytes => do
  (items? (← inner) count [] bytes).map fun (items, rest) => (.array items, rest)

def readEntries (count : Nat) : ItemReader := fun bytes => do
  (entries? (← inner) count [] bytes).map fun (entries, rest) => (.map entries, rest)

def readExtension (count : Nat) : ItemReader := fun bytes => do
  let _ ← inner
  (take? (1 + count) bytes).map fun (_, rest) => (.extension, rest)

/-- Reads what follows the first byte of a value. -/
def Head.read : Head → ItemReader
  | .whole item => fun bytes => some (item, bytes)
  | .number width item => fun bytes =>
    (number? width bytes).map fun (n, rest) => (item n, rest)
  | .bytes count item => readBytes item count
  | .sizedBytes width item => sized width (readBytes item)
  | .extension count => readExtension inner count
  | .sizedExtension width => sized width (readExtension inner)
  | .items count => readItems inner count
  | .sizedItems width => sized width (readItems inner)
  | .entries count => readEntries inner count
  | .sizedEntries width => sized width (readEntries inner)
  | .none => fun _ => Option.none

end Containers

/-- The value at the start of the bytes, with containers nested at most `depth` deep. -/
def item? : (depth : Nat) → ItemReader
  | _, [] => none
  | 0, byte :: bytes => (headOf byte).read none bytes
  | depth + 1, byte :: bytes => (headOf byte).read (some (item? depth)) bytes

/-- The deepest nesting of containers that is read. -/
def maxDepth : Nat := 1023

/-- The value at the start of the bytes; what follows it is not looked at. -/
def decode? (bytes : ByteArray) : Option Item := (item? maxDepth bytes.data.toList).map (·.1)

end BeanBridge.MessagePack
