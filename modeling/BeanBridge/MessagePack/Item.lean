import BeanBridge.Double.Basic

/-! The values of MessagePack. -/

namespace BeanBridge.MessagePack

/-- How many bytes spell an unsigned number. -/
inductive Width where
  | one
  | two
  | four
  | eight
  deriving DecidableEq

/-- The least width that a number fits. -/
def Width.least (n : UInt64) : Width :=
  if n.toNat < 2 ^ 8 then one
  else if n.toNat < 2 ^ 16 then two
  else if n.toNat < 2 ^ 32 then four
  else eight

/-- A MessagePack value. -/
inductive Item where
  | nil
  | bool (value : Bool)
  /-- A whole number in an unsigned form. -/
  | unsigned (value : UInt64) (width : Width)
  /-- A whole number in a signed form. -/
  | signed (value : Int64)
  | single (bits : UInt32)
  | double (value : Double)
  /-- Bytes that are meant as UTF-8. -/
  | text (bytes : ByteArray)
  | binary (bytes : ByteArray)
  | array (items : List Item)
  | map (entries : List (Item × Item))
  /-- A value of a type that is not known here. -/
  | extension

namespace Item

def ofString (s : String) : Item := text s.toUTF8

/-- The item of an unsigned number, which is as wide as it has to be. -/
def ofUInt64 (n : UInt64) : Item := unsigned n (.least n)

/-- The item of a whole number, unsigned unless it is negative. -/
def ofInt (n : Int64) : Item :=
  if n.toInt < 0 then signed n else ofUInt64 (.ofInt n.toInt)

/-- The text of an item, when its bytes are UTF-8. -/
def string? : Item → Option String
  | text bytes | binary bytes => String.fromUTF8? bytes
  | _ => none

/-- The whole number of an item. -/
def whole? : Item → Option Int
  | unsigned n _ => some n.toNat
  | signed n => some n.toInt
  | _ => none

def bool? : Item → Option Bool
  | bool b => some b
  | _ => none

end Item

end BeanBridge.MessagePack
