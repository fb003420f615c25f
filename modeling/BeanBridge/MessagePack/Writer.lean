import BeanBridge.MessagePack.Item

/-! Writing MessagePack: every number, text and container in its shortest form. -/

namespace BeanBridge.MessagePack

/-- The last `width` bytes of a number, the highest first. -/
def bigEndian : (width : Nat) → Nat → List UInt8
  | 0, _ => []
  | width + 1, n => .ofNat (n / 2 ^ (8 * width)) :: bigEndian width n

/-- The head of a value whose size is `n`, in the first of the forms that it fits: `n` below `limit`
within the byte `fixed + n`, else after the byte of the form, in one byte if there is such a
form, in two or in four. -/
def sizeHead (limit : Nat) (fixed : Nat) (form8 : Option UInt8) (form16 form32 : UInt8) (n : Nat) :
    List UInt8 :=
  if n < limit then [.ofNat (fixed + n)]
  else match form8 with
    | some form => if n < 2 ^ 8 then form :: bigEndian 1 n else long n
    | none => long n
where
  long (n : Nat) : List UInt8 :=
    if n < 2 ^ 16 then form16 :: bigEndian 2 n else form32 :: bigEndian 4 n

def unsignedBytes (n : Nat) : List UInt8 :=
  if n < 2 ^ 7 then [.ofNat n]
  else if n < 2 ^ 8 then 0xcc :: bigEndian 1 n
  else if n < 2 ^ 16 then 0xcd :: bigEndian 2 n
  else if n < 2 ^ 32 then 0xce :: bigEndian 4 n
  else 0xcf :: bigEndian 8 n

/-- A number that is not negative is written like an unsigned one. -/
def signedBytes (n : Int) : List UInt8 :=
  if 0 ≤ n then unsignedBytes n.toNat
  else if -2 ^ 5 ≤ n then [.ofNat (n + 2 ^ 8).toNat]
  else if -2 ^ 7 ≤ n then 0xd0 :: bigEndian 1 (n + 2 ^ 8).toNat
  else if -2 ^ 15 ≤ n then 0xd1 :: bigEndian 2 (n + 2 ^ 16).toNat
  else if -2 ^ 31 ≤ n then 0xd2 :: bigEndian 4 (n + 2 ^ 32).toNat
  else 0xd3 :: bigEndian 8 (n + 2 ^ 64).toNat

def textHead (n : Nat) : List UInt8 := sizeHead 32 0xa0 (some 0xd9) 0xda 0xdb n

def binaryHead (n : Nat) : List UInt8 := sizeHead 0 0 (some 0xc4) 0xc5 0xc6 n

def arrayHead (n : Nat) : List UInt8 := sizeHead 16 0x90 none 0xdc 0xdd n

def mapHead (n : Nat) : List UInt8 := sizeHead 16 0x80 none 0xde 0xdf n

def ofList (bytes : List UInt8) : ByteArray := ⟨bytes.toArray⟩

mutual

/-- The bytes of an item.  An extension is written as an empty one of type 0. -/
def Item.encode : Item → ByteArray
  | .nil => ofList [0xc0]
  | .bool b => ofList [if b then 0xc3 else 0xc2]
  | .unsigned n _ => ofList (unsignedBytes n.toNat)
  | .signed n => ofList (signedBytes n.toInt)
  | .single bits => ofList (0xca :: bigEndian 4 bits.toNat)
  | .double x => ofList (0xcb :: bigEndian 8 x.bits.toNat)
  | .text bytes => ofList (textHead bytes.size) ++ bytes
  | .binary bytes => ofList (binaryHead bytes.size) ++ bytes
  | .array items => ofList (arrayHead items.length) ++ encodeItems items
  | .map entries => ofList (mapHead entries.length) ++ encodeEntries entries
  | .extension => ofList [0xc7, 0, 0]

/-- The bytes of items, one behind the other. -/
def encodeItems : List Item → ByteArray
  | [] => ByteArray.empty
  | item :: items => item.encode ++ encodeItems items

/-- The bytes of entries, each key before its value. -/
def encodeEntries : List (Item × Item) → ByteArray
  | [] => ByteArray.empty
  | (key, value) :: entries => key.encode ++ value.encode ++ encodeEntries entries

end

end BeanBridge.MessagePack
