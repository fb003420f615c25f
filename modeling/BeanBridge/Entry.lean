import BeanBridge.Double.Shortest

/-! Entries: the flat, typed records in which attribute values are reported. -/

namespace BeanBridge

/-- A value of an entry. -/
inductive Scalar where
  | double (value : Double)
  | int (value : Int64)
  | string (value : String)
  | bool (value : Bool)
  deriving DecidableEq

/-- The type of an entry; `error` is the type of an entry without a value. -/
inductive EntryKind where
  | double
  | int
  | string
  | bool
  | error
  deriving DecidableEq

/-- The word for the type. -/
def EntryKind.word : EntryKind → String
  | double => "DOUBLE"
  | int => "INT"
  | string => "STRING"
  | bool => "BOOL"
  | error => "ERROR"

namespace Scalar

def kind : Scalar → EntryKind
  | double _ => .double
  | int _ => .int
  | string _ => .string
  | bool _ => .bool

/-- The value as people read it. -/
def display : Scalar → String
  | double x => x.display
  | int n => toString n.toInt
  | string s => s
  | bool b => if b then "true" else "false"

end Scalar

/-- One reported attribute or field of an attribute. -/
structure Entry where
  /-- The bean, the attribute and the fields leading to the value. -/
  name : String
  kind : EntryKind
  value : Option Scalar
  /-- What failed, of an entry without a value. -/
  status : String
  deriving DecidableEq

namespace Entry

def ofScalar (name : String) (value : Scalar) : Entry := ⟨name, value.kind, some value, ""⟩

def failed (name status : String) : Entry := ⟨name, .error, none, status⟩

/-- The entry records a failure. -/
def isError (entry : Entry) : Bool := entry.kind == .error

def double? (entry : Entry) : Option Double :=
  match entry.value with
  | some (.double x) => some x
  | _ => none

def int? (entry : Entry) : Option Int64 :=
  match entry.value with
  | some (.int n) => some n
  | _ => none

def string? (entry : Entry) : Option String :=
  match entry.value with
  | some (.string s) => some s
  | _ => none

def bool? (entry : Entry) : Option Bool :=
  match entry.value with
  | some (.bool b) => some b
  | _ => none

/-- The entry on one line: its name, its type, and its value or what failed. -/
def display (entry : Entry) : String :=
  entry.name ++ " (" ++ entry.kind.word ++ "): " ++
    match entry.value with
    | some value => value.display
    | none => entry.status

end Entry

end BeanBridge
