import BeanBridge.Config.Basic

/-! Requests to the bridge. -/

namespace BeanBridge

/-- What a client can ask for.  A timeout in milliseconds overrides the usual deadline. -/
inductive Request where
  | ping
  | version
  | connect (config : Config) (timeout : Option Int64)
  /-- Closes the session and ends the service. -/
  | disconnect
  | beanNames (pattern : String) (timeout : Option Int64)
  | attributeNames (bean : String) (timeout : Option Int64)
  | read (bean name : String) (timeout : Option Int64)
  /-- Several attributes of a bean, or all of them when none is named. -/
  | readMany (bean : String) (names : List String) (timeout : Option Int64)
  /-- The same attributes of every bean that a pattern selects. -/
  | queryMany (pattern : String) (names : List String) (timeout : Option Int64)
  /-- Takes the recorded calls. -/
  | stats
  deriving DecidableEq

namespace Request

/-- The names of the requests. -/
def methods : List String :=
  ["ping", "getClientVersion", "connect", "disconnect", "queryMBeanNames",
    "getMBeanAttributeNames", "getMBeanAttribute", "getMBeanAttributes",
    "queryMBeanAttributes", "getInternalStats"]

/-- The name of the request. -/
def method : Request → String
  | ping => "ping"
  | version => "getClientVersion"
  | connect .. => "connect"
  | disconnect => "disconnect"
  | beanNames .. => "queryMBeanNames"
  | attributeNames .. => "getMBeanAttributeNames"
  | read .. => "getMBeanAttribute"
  | readMany .. => "getMBeanAttributes"
  | queryMany .. => "queryMBeanAttributes"
  | stats => "getInternalStats"

end Request

/-- A request with the number that its answer will bear. -/
structure RequestFrame where
  id : UInt64
  request : Request
  deriving DecidableEq

end BeanBridge
