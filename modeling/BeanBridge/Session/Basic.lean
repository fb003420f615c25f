import BeanBridge.Session.Connection
import BeanBridge.Stats.Recorder

/-! A session with an endpoint: the connection, and the record of the calls made over it. -/

namespace BeanBridge

/-- The connection, and the record of the calls made over it. -/
structure Session where
  connection : Connection := {}
  stats : Stats := {}
  deriving DecidableEq

namespace Session

/-- What is done in a session by calling the endpoint. -/
abbrev Act (α : Type) : Type := Action Session Call.Reply α

variable {α : Type}

/-- A session with the endpoint is open. -/
def isConnected (session : Session) : Bool := session.connection.isConnected

/-- What is done with the connection. -/
def onConnection (act : Connection.Act α) : Act α :=
  act.focus Session.connection fun connection session => { session with connection }

/-- Changes the records. -/
def onStats (change : Stats → Stats) : Act Unit :=
  Action.modify fun session => { session with stats := change session.stats }

/-- Begins the record of a call. -/
def beginRecord (kind bean : String) (attributes : List String) : Act Stats.Handle := do
  let (handle, stats) := (← Action.get).stats.record kind
  onStats fun _ => (stats.setBean handle bean).setAttributes handle attributes
  return handle

/-- Does `act` as a recorded call.  The call counts as successful when `count` has a number for its
result. -/
def recorded (kind bean : String) (attributes : List String) (count : α → Option Nat)
    (act : Act α) : Act α := do
  let handle ← beginRecord kind bean attributes
  let result ← act
  onStats fun stats =>
    match count result with
    | some number => ((stats.setSuccessful handle).setCount handle number).finish handle
    | none => stats.finish handle
  return result

/-- The time passes. -/
def tick (milliseconds : Nat) (session : Session) : Session :=
  { session with stats.now := session.stats.now + milliseconds }

end Session

end BeanBridge
