import BeanBridge.Text.Record

/-! The settings of a connection to a management endpoint. -/

namespace BeanBridge

/-- The settings of a connection.  An empty text is a setting that is not given. -/
structure Config where
  /-- The whole address; when given, it is used as it stands. -/
  url : String := ""
  host : String := ""
  port : UInt16 := 0
  /-- The path behind the port. -/
  path : String := ""
  user : String := ""
  password : String := ""
  keyStore : String := ""
  keyStorePassword : String := ""
  trustStore : String := ""
  trustStorePassword : String := ""
  /-- The endpoint speaks the remoting protocol of an application server. -/
  isRemote : Bool := false
  /-- The application server runs standalone, and remoting goes over HTTP. -/
  isStandalone : Bool := false
  /-- Remoting over HTTP is encrypted. -/
  useTls : Bool := false
  /-- The deadline of every later request in milliseconds; none when not positive. -/
  requestTimeout : Int64 := 0
  /-- Errors carry stack traces. -/
  verbose : Bool := false
  /-- Every call is recorded. -/
  recordsStats : Bool := false
  /-- How many records are kept; below one, the usual number. -/
  statsCapacity : Int64 := 0
  deriving DecidableEq

namespace Config

/-- The settings of an endpoint at a host and port. -/
def ofHost (host : String) (port : UInt16) : Config := { host, port }

/-- The settings of an endpoint at a whole address. -/
def ofUrl (url : String) : Config := { url }

/-- What is shown of a secret: whether there is one. -/
def redacted (secret : String) : String := if secret.isEmpty then "" else "<redacted>"

/-- The settings as text for logs, secrets left out. -/
def debugText (config : Config) : String :=
  Text.record "JmxConfig"
    [("connection_url", Text.quoted config.url),
      ("hostname", Text.quoted config.host),
      ("port", toString config.port.toNat),
      ("uri_path", Text.quoted config.path),
      ("username", Text.quoted config.user),
      ("password", Text.quoted (redacted config.password)),
      ("key_store", Text.quoted config.keyStore),
      ("key_store_password", Text.quoted (redacted config.keyStorePassword)),
      ("trust_store", Text.quoted config.trustStore),
      ("trust_store_password", Text.quoted (redacted config.trustStorePassword)),
      ("is_remote", Text.flag config.isRemote),
      ("is_jboss_standalone_mode", Text.flag config.isStandalone),
      ("use_ssl", Text.flag config.useTls),
      ("request_timeout_ms", toString config.requestTimeout.toInt),
      ("verbose", Text.flag config.verbose),
      ("enable_internal_stats", Text.flag config.recordsStats),
      ("max_internal_stats_size", toString config.statsCapacity.toInt)]
    false

end Config

end BeanBridge
