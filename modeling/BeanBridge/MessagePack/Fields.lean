import BeanBridge.Double.Rounding
import BeanBridge.MessagePack.Item

/-! Records and variants in MessagePack.  A record is a map from the names of its fields, or an
array of its fields in their order.  A field or a variant may be named by its text or by its
position.  An item that comes before it is known what it is for is set aside, and fewer forms
of it are accepted then. -/

namespace BeanBridge.MessagePack

/-- When an item is read: as it comes, or later, having been set aside. -/
inductive Reading where
  | direct
  | aside
  deriving DecidableEq

/-- An item set aside names nothing by a number of two or four bytes. -/
def Reading.acceptsPosition : Reading → Width → Bool
  | direct, _ | aside, .one | aside, .eight => true
  | aside, .two | aside, .four => false

/-- What a key of a record names. -/
inductive Key where
  | field (position : Nat)
  /-- No field; the entry is passed over. -/
  | other
  /-- The key cannot name anything. -/
  | invalid
  deriving DecidableEq

/-- The text or bytes of an item as a name. -/
def Item.nameIn (names : List String) (item : Item) : Key :=
  match item.string?.bind fun name => names.findIdx? (· == name) with
  | some position => .field position
  | none => .other

/-- What an item names as a key of a record with the fields given. -/
def Item.key (reading : Reading) (names : List String) : Item → Key
  | .text bytes => (Item.text bytes).nameIn names
  | .binary bytes => (Item.binary bytes).nameIn names
  | .unsigned n width =>
    if !reading.acceptsPosition width then .invalid
    else if n.toNat < names.length then .field n.toNat
    else .other
  | _ => .invalid

/-- The variant that an item names. -/
def Item.variant? (reading : Reading) (names : List String) (item : Item) : Option Nat :=
  match item.key reading names with
  | .field position => some position
  | _ => none

/-- The variant that an item names when variants hold nothing: its name, or a map from its name to
nil.  Set aside, the name by itself has to be a text, and the map may also lead to an empty map. -/
def Item.plainVariant? (names : List String) : Reading → Item → Option Nat
  | reading, .map [(name, .nil)] => name.variant? reading names
  | .aside, .map [(name, .map [])] => name.variant? .aside names
  | .direct, item => item.variant? .direct names
  | .aside, .text bytes => (Item.text bytes).variant? .aside names
  | .aside, _ => none

/-- The fields that a record holds, by position. -/
structure Fields where
  list : List (Nat × Item)

namespace Fields

def get? (fields : Fields) (position : Nat) : Option Item := fields.list.lookup position

/-- Adds a field that is not there yet. -/
def insert? (fields : Fields) (position : Nat) (value : Item) : Option Fields :=
  match fields.get? position with
  | none => some ⟨(position, value) :: fields.list⟩
  | some _ => none

/-- A field that has to be there. -/
def required {α : Type} (fields : Fields) (position : Nat) (read : Item → Option α) : Option α :=
  (fields.get? position).bind read

/-- A field that has a usual value. -/
def withDefault {α : Type} (fields : Fields) (position : Nat) (usual : α)
    (read : Item → Option α) : Option α :=
  match fields.get? position with
  | none => some usual
  | some value => read value

/-- The fields among entries.  None may be there twice. -/
def ofEntries? (reading : Reading) (names : List String) :
    List (Item × Item) → Option Fields
  | [] => some ⟨[]⟩
  | (key, value) :: entries => do
    let fields ← ofEntries? reading names entries
    match key.key reading names with
    | .field position => fields.insert? position value
    | .other => some fields
    | .invalid => none

/-- The fields in their order. -/
def ofItems (items : List Item) : Fields :=
  ⟨items.zipIdx.map Prod.swap⟩

end Fields

namespace Item

/-- The items of an array.  Empty bytes are an empty array, unless they were set aside. -/
def array? : Reading → Item → Option (List Item)
  | _, array items => some items
  | .direct, binary bytes => if bytes.isEmpty then some [] else none
  | _, _ => none

/-- The fields of a record. -/
def fields? (reading : Reading) (names : List String) : Item → Option Fields
  | map entries => Fields.ofEntries? reading names entries
  | item => do
    let items ← item.array? reading
    if items.length ≤ names.length then some (.ofItems items) else none

/-- The item of a record. -/
def ofFields (fields : List (String × Item)) : Item :=
  map (fields.map fun field => (ofString field.1, field.2))

/-- An item that may be nil. -/
def nullable {α : Type} (read : Item → Option α) : Item → Option (Option α)
  | nil => some none
  | item => (read item).map some

/-- An array of items of one kind. -/
def list? {α : Type} (reading : Reading) (read : Item → Option α) (item : Item) :
    Option (List α) :=
  (item.array? reading).bind (·.mapM read)

/-- The whole number of an item, in 64 bits with a sign. -/
def int64? (item : Item) : Option Int64 :=
  item.whole?.bind fun n => if -2 ^ 63 ≤ n ∧ n < 2 ^ 63 then some (.ofInt n) else none

/-- The whole number of an item, in 64 bits without a sign. -/
def uint64? (item : Item) : Option UInt64 :=
  item.whole?.bind fun n => if 0 ≤ n ∧ n < 2 ^ 64 then some (.ofNat n.toNat) else none

/-- The number of an item.  Whole numbers are rounded. -/
def double? : Item → Option Double
  | double x => some x
  | single bits => some (.ofSingle bits)
  | unsigned n _ => some (.ofInt n.toNat)
  | signed n => some (.ofInt n.toInt)
  | _ => none

end Item

end BeanBridge.MessagePack
