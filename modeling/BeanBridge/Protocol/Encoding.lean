import BeanBridge.Config.Fields
import BeanBridge.MessagePack.Fields
import BeanBridge.MessagePack.Writer
import BeanBridge.Protocol.Request
import BeanBridge.Protocol.Response

/-! The written form of requests, responses and settings.  Records are maps with all their fields,
in order; what may be absent is nil. -/

namespace BeanBridge

open MessagePack

/-- The media type of the written form. -/
def contentType : String := "application/msgpack"

/-- The item of the settings. -/
def Config.toItem (config : Config) : Item :=
  .map ((fieldNames.map Item.ofString).zip
    [.ofString config.url, .ofString config.host, .ofUInt64 config.port.toUInt64,
      .ofString config.path, .ofString config.user, .ofString config.password,
      .ofString config.keyStore, .ofString config.keyStorePassword, .ofString config.trustStore,
      .ofString config.trustStorePassword, .bool config.isRemote, .bool config.isStandalone,
      .bool config.useTls, .ofInt config.requestTimeout, .bool config.verbose,
      .bool config.recordsStats, .ofInt config.statsCapacity])

def timeoutItem : Option Int64 → Item
  | none => .nil
  | some timeout => .ofInt timeout

def textsItem (texts : List String) : Item := .array (texts.map .ofString)

/-- The fields of a request, if it is one that has any. -/
def Request.parameters? : Request → Option Item
  | ping | version | disconnect | stats => none
  | connect config timeout =>
    some (.ofFields [("config", config.toItem), ("timeoutMs", timeoutItem timeout)])
  | beanNames pattern timeout =>
    some (.ofFields [("pattern", .ofString pattern), ("timeoutMs", timeoutItem timeout)])
  | attributeNames bean timeout =>
    some (.ofFields [("mbeanName", .ofString bean), ("timeoutMs", timeoutItem timeout)])
  | read bean name timeout =>
    some (.ofFields [("mbeanName", .ofString bean), ("attribute", .ofString name),
      ("timeoutMs", timeoutItem timeout)])
  | readMany bean names timeout =>
    some (.ofFields [("mbeanName", .ofString bean), ("attributes", textsItem names),
      ("timeoutMs", timeoutItem timeout)])
  | queryMany pattern names timeout =>
    some (.ofFields [("pattern", .ofString pattern), ("attributes", textsItem names),
      ("timeoutMs", timeoutItem timeout)])

/-- A variant: its name under one key, and its content, if any, under another. -/
def taggedItem (tagKey tag contentKey : String) (content : Option Item) : Item :=
  .ofFields ((tagKey, .ofString tag) :: (content.map fun item => (contentKey, item)).toList)

def Request.toItem (request : Request) : Item :=
  taggedItem "method" request.method "params" request.parameters?

def Scalar.toItem : Scalar → Item
  | double x => .ofFields [("double", .double x)]
  | int n => .ofFields [("int", .ofInt n)]
  | string s => .ofFields [("string", .ofString s)]
  | bool b => .ofFields [("bool", .bool b)]

def Entry.toItem (entry : Entry) : Item :=
  .ofFields
    [("name", .ofString entry.name), ("responseType", .ofString entry.kind.word),
      ("value", match entry.value with
        | none => .nil
        | some value => value.toItem),
      ("statusMsg", .ofString entry.status)]

def Stat.toItem (stat : Stat) : Item :=
  .ofFields
    [("statType", .ofString stat.kind), ("mbean", .ofString stat.bean),
      ("attrs", textsItem stat.attributes), ("responseCount", .ofUInt64 stat.responseCount),
      ("milliseconds", .double stat.duration), ("startTimestamp", .ofInt stat.start),
      ("successful", .bool stat.successful)]

def ReplyError.toItem : ReplyError → Item
  | connection message =>
    .ofFields [("type", .ofString "connection"), ("message", .ofString message)]
  | jmx message cause stacktrace =>
    .ofFields [("type", .ofString "jmx"), ("message", .ofString message),
      ("causeMessage", .ofString cause), ("stacktrace", .ofString stacktrace)]
  | invalidRequest message =>
    .ofFields [("type", .ofString "invalidRequest"), ("message", .ofString message)]

/-- What a response holds, if it is one that holds anything. -/
def Response.body? : Response → Option Item
  | pong | connected | disconnected => none
  | version text => some (.ofString text)
  | beanNames names | attributeNames names => some (textsItem names)
  | attributes entries => some (.array (entries.map (·.toItem)))
  | stats records => some (.array (records.map (·.toItem)))
  | .error failure => some failure.toItem

def Response.toItem (response : Response) : Item :=
  taggedItem "kind" response.kind "body" response.body?

def RequestFrame.toItem (frame : RequestFrame) : Item :=
  .ofFields [("id", .ofUInt64 frame.id), ("request", frame.request.toItem)]

def ResponseFrame.toItem (frame : ResponseFrame) : Item :=
  .ofFields [("id", .ofUInt64 frame.id), ("response", frame.response.toItem)]

/-- The written form of the settings. -/
def Config.encode (config : Config) : ByteArray := config.toItem.encode

/-- The written form of a request. -/
def RequestFrame.encode (frame : RequestFrame) : ByteArray := frame.toItem.encode

/-- The written form of a response. -/
def ResponseFrame.encode (frame : ResponseFrame) : ByteArray := frame.toItem.encode

end BeanBridge
