import BeanBridge.Config.Basic

/-! What a connector needs to know beside the address. -/

namespace BeanBridge

/-- A user and a password. -/
structure Credentials where
  user : String
  password : String
  deriving DecidableEq

/-- The stores of an encrypted connection. -/
structure Stores where
  key : String
  keyPassword : String
  trust : String
  trustPassword : String
  deriving DecidableEq

/-- The circumstances in which a connection is opened. -/
structure Environment where
  credentials : Option Credentials := none
  stores : Option Stores := none
  /-- The endpoint reports stack traces. -/
  includesStacktrace : Bool := false
  deriving DecidableEq

/-- The credentials as text, the password hidden whatever it is. -/
def Credentials.debugText (credentials : Credentials) : String :=
  Text.record "Credentials"
    [("username", Text.quoted credentials.user), ("password", Text.quoted "<redacted>")] false

/-- The places of the stores as text, without their passwords. -/
def Stores.debugText (stores : Stores) : String :=
  Text.record "TlsStores"
    [("key_store", Text.quoted stores.key), ("trust_store", Text.quoted stores.trust)] true

/-- The circumstances as text, secrets left out. -/
def Environment.debugText (environment : Environment) : String :=
  Text.record "ConnectionEnv"
    [("credentials", Text.option (environment.credentials.map (·.debugText))),
      ("tls", Text.option (environment.stores.map (·.debugText))),
      ("include_stacktrace", Text.flag environment.includesStacktrace)]
    false

/-- The circumstances that the settings ask for: credentials when a user is given, and stores when
both are. -/
def Config.environment (config : Config) : Environment where
  credentials := if config.user.isEmpty then none else some ⟨config.user, config.password⟩
  stores :=
    if config.keyStore.isEmpty || config.trustStore.isEmpty then none
    else some ⟨config.keyStore, config.keyStorePassword, config.trustStore,
      config.trustStorePassword⟩
  includesStacktrace := config.verbose

end BeanBridge
