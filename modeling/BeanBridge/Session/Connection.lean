import BeanBridge.Config.Target
import BeanBridge.Connector.Call
import BeanBridge.Failure

/-! The connection to an endpoint: at most one open session, and the settings to open another. -/

namespace BeanBridge

/-- The open session, and the settings given last. -/
structure Connection where
  config : Option Config := none
  session : Option SessionHandle := none
  deriving DecidableEq

namespace Connection

/-- What is done with the connection by calling the endpoint. -/
abbrev Act (α : Type) : Type := Action Connection Call.Reply α

/-- A session is open. -/
def isConnected (connection : Connection) : Bool := connection.session.isSome

/-- Gives up the open session, if there is one, before closing it; what comes of closing it does not
matter. -/
def release : Act Bool := do
  let connection ← Action.get
  match connection.session with
  | none => return false
  | some session =>
    Action.modify ({ · with session := none })
    let _ ← Action.ask (Call.close session)
    return true

/-- Opens a session with the settings given, in place of any other. -/
def openWith (config : Config) : Act (Except Failure Unit) := do
  let _ ← release
  let reply : Except ConnectorError SessionHandle ←
    Action.ask (Call.connect config.target config.environment)
  match reply with
  | .ok session =>
    Action.modify ({ · with session := some session })
    return .ok ()
  | .error error =>
    return .error (Fault.unreachable config.target config.verbose error).failure

/-- Keeps the settings, and opens a session with them. -/
def connect (config : Config) : Act (Except Failure Unit) := do
  Action.modify ({ · with config := some config })
  openWith config

/-- Closes the session. -/
def disconnect : Act (Except Failure Unit) := do
  if ← release then return .ok () else return .error Fault.notConnected.failure

/-- The open session; one is opened with the settings kept if there is none. -/
def ensure : Act (Except Failure SessionHandle) := do
  let connection ← Action.get
  match connection.session with
  | some session => return .ok session
  | none => match connection.config with
    | none => return .error Fault.notConfigured.failure
    | some config => match ← openWith config with
      | .error failure => return .error failure
      | .ok () => match (← Action.get).session with
        | some session => return .ok session
        | none => return .error Fault.notEstablished.failure

end Connection

end BeanBridge
