import BeanBridge.Entry
import BeanBridge.Stats.Basic

/-! Responses of the bridge. -/

namespace BeanBridge

/-- The failure of a request, as the client learns of it. -/
inductive ReplyError where
  /-- The session is gone. -/
  | connection (message : String)
  /-- The operation failed. -/
  | jmx (message cause stacktrace : String)
  /-- The request could not be read. -/
  | invalidRequest (message : String)
  deriving DecidableEq

/-- What is said of a payload that cannot be read. -/
def decodeComplaint : String := "codec error: decode:"

/-- The failure in words. -/
def ReplyError.display : ReplyError → String
  | connection message => message
  | jmx message _ _ => message
  | invalidRequest message => "invalid request: " ++ message

/-- The answer to a request. -/
inductive Response where
  | pong
  | version (text : String)
  | connected
  | disconnected
  | beanNames (names : List String)
  | attributeNames (names : List String)
  | attributes (entries : List Entry)
  | stats (records : List Stat)
  | error (error : ReplyError)
  deriving DecidableEq

namespace Response

/-- The names of the kinds of responses. -/
def kinds : List String :=
  ["pong", "version", "connected", "disconnected", "mbeanNames", "attributeNames", "attributes",
    "internalStats", "error"]

/-- The name of the kind of response. -/
def kind : Response → String
  | pong => "pong"
  | version _ => "version"
  | connected => "connected"
  | disconnected => "disconnected"
  | beanNames _ => "mbeanNames"
  | attributeNames _ => "attributeNames"
  | attributes _ => "attributes"
  | stats _ => "internalStats"
  | error _ => "error"

end Response

/-- A response with the number of the request that it answers. -/
structure ResponseFrame where
  id : UInt64
  response : Response
  deriving DecidableEq

end BeanBridge
