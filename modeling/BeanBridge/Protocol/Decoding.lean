import BeanBridge.Config.Fields
import BeanBridge.MessagePack.Fields
import BeanBridge.MessagePack.Reader
import BeanBridge.Protocol.Request
import BeanBridge.Protocol.Response

/-! Reading requests, responses and settings.  Fields come in any order, unknown ones are passed
over, and what has a usual value may be left out.  What comes before its variant is set aside. -/

namespace BeanBridge

open MessagePack

/-- How MessagePack holds the fields of the settings. -/
def Config.itemReader : Config.Reader Item where
  text? := Item.string?
  whole? := Item.whole?
  flag? := Item.bool?

def Config.ofItem? (reading : Reading) (item : Item) : Option Config := do
  let fields ← item.fields? reading fieldNames
  ofFields itemReader fields.get?

/-- The first entry with one of the names given has the name at `position`. -/
def comesFirst (names : List String) (position : Nat) : List (Item × Item) → Bool
  | [] => false
  | (key, _) :: entries =>
    match key.key .direct names with
    | .field first => first == position
    | _ => comesFirst names position entries

/-- The variant and the content of an item that has its variant under one key and its content under
another, or the two in an array, and how the content is read. -/
def tagged? (tagKey contentKey : String) (variants : List String) (item : Item) :
    Option (Nat × Option Item × Reading) := do
  let names := [tagKey, contentKey]
  let (fields, reading) ← match item with
    | .array items =>
      if items.length = 2 then some (Fields.ofItems items, Reading.direct) else none
    | .map entries =>
      (Fields.ofEntries? .direct names entries).map fun fields =>
        (fields, if comesFirst names 1 entries then .aside else .direct)
    | _ => none
  let variant ← fields.required 0 (·.plainVariant? variants .direct)
  some (variant, fields.get? 1, reading)

/-- The content of a variant that has none: nothing, or nil. -/
def noContent : Option Item → Option Unit
  | none | some .nil => some ()
  | _ => none

/-- The fields of a variant, which a map holds. -/
def parameters? (reading : Reading) (names : List String) : Option Item → Option Fields
  | some (.map entries) => Fields.ofEntries? reading names entries
  | _ => none

/-- The timeout among the fields of a request. -/
def timeoutField (fields : Fields) (position : Nat) : Option (Option Int64) :=
  fields.withDefault position none (Item.nullable Item.int64?)

/-- The list of attributes among the fields of a request. -/
def attributesField (reading : Reading) (fields : Fields) (position : Nat) :
    Option (List String) :=
  fields.withDefault position [] (Item.list? reading Item.string?)

def Request.ofItem? (item : Item) : Option Request := do
  let (variant, content, reading) ← tagged? "method" "params" methods item
  match variant with
  | 0 => (noContent content).map fun _ => ping
  | 1 => (noContent content).map fun _ => version
  | 2 =>
    let fields ← parameters? reading ["config", "timeoutMs"] content
    some (connect (← fields.required 0 (Config.ofItem? reading)) (← timeoutField fields 1))
  | 3 => (noContent content).map fun _ => disconnect
  | 4 =>
    let fields ← parameters? reading ["pattern", "timeoutMs"] content
    some (beanNames (← fields.required 0 Item.string?) (← timeoutField fields 1))
  | 5 =>
    let fields ← parameters? reading ["mbeanName", "timeoutMs"] content
    some (attributeNames (← fields.required 0 Item.string?) (← timeoutField fields 1))
  | 6 =>
    let fields ← parameters? reading ["mbeanName", "attribute", "timeoutMs"] content
    some (read (← fields.required 0 Item.string?) (← fields.required 1 Item.string?)
      (← timeoutField fields 2))
  | 7 =>
    let fields ← parameters? reading ["mbeanName", "attributes", "timeoutMs"] content
    some (readMany (← fields.required 0 Item.string?) (← attributesField reading fields 1)
      (← timeoutField fields 2))
  | 8 =>
    let fields ← parameters? reading ["pattern", "attributes", "timeoutMs"] content
    some (queryMany (← fields.required 0 Item.string?) (← attributesField reading fields 1)
      (← timeoutField fields 2))
  | _ => (noContent content).map fun _ => stats

/-- The words for the types of entries. -/
def EntryKind.words : List String := ["DOUBLE", "INT", "STRING", "BOOL", "ERROR"]

/-- The type of an entry, which its word says. -/
def EntryKind.ofItem? (reading : Reading) (item : Item) : Option EntryKind := do
  match ← item.plainVariant? words reading with
  | 0 => some double
  | 1 => some int
  | 2 => some string
  | 3 => some bool
  | _ => some error

/-- The value of an entry: a map from the name of its kind. -/
def Scalar.ofItem? (reading : Reading) : Item → Option Scalar
  | .map [(tag, value)] => do
    match ← tag.variant? reading ["double", "int", "string", "bool"] with
    | 0 => value.double?.map double
    | 1 => value.int64?.map int
    | 2 => value.string?.map string
    | _ => value.bool?.map bool
  | _ => none

def Entry.ofItem? (reading : Reading) (item : Item) : Option Entry := do
  let fields ← item.fields? reading ["name", "responseType", "value", "statusMsg"]
  some {
    name := ← fields.required 0 Item.string?
    kind := ← fields.required 1 (EntryKind.ofItem? reading)
    value := ← fields.withDefault 2 none (Item.nullable (Scalar.ofItem? reading))
    status := ← fields.withDefault 3 "" Item.string? }

def Stat.ofItem? (reading : Reading) (item : Item) : Option Stat := do
  let fields ← item.fields? reading
    ["statType", "mbean", "attrs", "responseCount", "milliseconds", "startTimestamp",
      "successful"]
  some {
    kind := ← fields.required 0 Item.string?
    bean := ← fields.required 1 Item.string?
    attributes := ← fields.required 2 (Item.list? reading Item.string?)
    responseCount := ← fields.required 3 Item.uint64?
    duration := ← fields.required 4 Item.double?
    start := ← fields.required 5 Item.int64?
    successful := ← fields.required 6 Item.bool? }

/-- The item is the text of a name. -/
def isName (name : String) : Item → Bool
  | .text bytes => (Item.text bytes).string? == some name
  | .binary bytes => (Item.binary bytes).string? == some name
  | _ => false

/-- The variant and the fields of an item that has its variant among the fields: under the key
`type` of a map, or first in an array. -/
def inlineTagged? (reading : Reading) (variants : List String) (item : Item) :
    Option (Nat × Item) :=
  match item with
  | .map entries => do
    let (tags, others) := entries.partition fun entry => isName "type" entry.1
    match tags with
    | [(_, tag)] => some (← tag.variant? reading variants, .map others)
    | _ => none
  | .array (tag :: items) => do some (← tag.variant? reading variants, .array items)
  | _ => none

/-- The error that an item holds.  All but its variant is set aside. -/
def ReplyError.ofItem? (reading : Reading) (item : Item) : Option ReplyError := do
  let (variant, rest) ← inlineTagged? reading ["connection", "jmx", "invalidRequest"] item
  match variant with
  | 0 =>
    let fields ← rest.fields? .aside ["message"]
    some (connection (← fields.required 0 Item.string?))
  | 1 =>
    let fields ← rest.fields? .aside ["message", "causeMessage", "stacktrace"]
    some (jmx (← fields.required 0 Item.string?) (← fields.withDefault 1 "" Item.string?)
      (← fields.withDefault 2 "" Item.string?))
  | _ =>
    let fields ← rest.fields? .aside ["message"]
    some (invalidRequest (← fields.required 0 Item.string?))

def Response.ofItem? (item : Item) : Option Response := do
  let (variant, content, reading) ← tagged? "kind" "body" kinds item
  match variant with
  | 0 => (noContent content).map fun _ => pong
  | 1 => (content.bind Item.string?).map version
  | 2 => (noContent content).map fun _ => connected
  | 3 => (noContent content).map fun _ => disconnected
  | 4 => (content.bind (Item.list? reading Item.string?)).map beanNames
  | 5 => (content.bind (Item.list? reading Item.string?)).map attributeNames
  | 6 => (content.bind (Item.list? reading (Entry.ofItem? reading))).map attributes
  | 7 => (content.bind (Item.list? reading (Stat.ofItem? reading))).map stats
  | _ => (content.bind (ReplyError.ofItem? reading)).map error

def RequestFrame.ofItem? (item : Item) : Option RequestFrame := do
  let fields ← item.fields? .direct ["id", "request"]
  some ⟨← fields.required 0 Item.uint64?, ← fields.required 1 Request.ofItem?⟩

def ResponseFrame.ofItem? (item : Item) : Option ResponseFrame := do
  let fields ← item.fields? .direct ["id", "response"]
  some ⟨← fields.required 0 Item.uint64?, ← fields.required 1 Response.ofItem?⟩

/-- The settings whose written form begins the bytes. -/
def Config.decode? (bytes : ByteArray) : Option Config :=
  (MessagePack.decode? bytes).bind (ofItem? .direct)

/-- The request whose written form begins the bytes. -/
def RequestFrame.decode? (bytes : ByteArray) : Option RequestFrame :=
  (MessagePack.decode? bytes).bind ofItem?

/-- The response whose written form begins the bytes. -/
def ResponseFrame.decode? (bytes : ByteArray) : Option ResponseFrame :=
  (MessagePack.decode? bytes).bind ofItem?

end BeanBridge
