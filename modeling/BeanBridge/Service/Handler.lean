import BeanBridge.Protocol.Request
import BeanBridge.Service.Fetcher

/-! The handler of requests.  Connecting sets the usual deadline of all later requests; a timeout of
their own overrides it. -/

namespace BeanBridge

/-- A handler of requests, with the connector it uses. -/
structure Handler (κ : Type) where
  endpoint : Endpoint κ
  /-- The usual deadline in milliseconds; none when not positive. -/
  defaultTimeout : Int64 := 0

/-- What comes after a request. -/
inductive Flow where
  | carryOn
  | stop
  deriving DecidableEq

namespace Handler

variable {κ α : Type}

/-- A handler that nothing was asked of yet. -/
def start (inner : κ) : Handler κ := { endpoint := ({}, inner) }

/-- What is done with the session and the connector. -/
def onEndpoint (act : Timed (Endpoint κ) α) : Timed (Handler κ) α :=
  act.focus Handler.endpoint fun endpoint handler => { handler with endpoint }

/-- The response that tells the result of an operation. -/
def respond : Except Failure Response → Response
  | .ok response => response
  | .error failure => .error failure.replyError

/-- Does an operation within a time of its own or else the usual time. -/
def perform (connector : Connector κ) (timeout : Option Int64)
    (operation : Except Failure Operation) : Timed (Handler κ) Response := do
  let handler ← Action.get
  let timeout := timeout.getD handler.defaultTimeout
  return respond (← onEndpoint (Fetcher.call connector timeout operation))

def answer (connector : Connector κ) : Request → Timed (Handler κ) Response
  | .ping => pure .pong
  | .version => pure (.version Fetcher.version)
  | .connect config timeout => do
    Action.modify ({ · with defaultTimeout := config.requestTimeout })
    perform connector timeout (.ok (.connect config))
  | .disconnect => perform connector none (.ok .disconnect)
  | .beanNames pattern timeout =>
    perform connector timeout (Fetcher.onName pattern .beanNames)
  | .attributeNames bean timeout =>
    perform connector timeout (Fetcher.onName bean .attributeNames)
  | .read bean name timeout =>
    perform connector timeout (Fetcher.onName bean fun bean => .read bean name)
  | .readMany bean names timeout =>
    perform connector timeout (Fetcher.onName bean fun bean => .readMany bean names)
  | .queryMany pattern names timeout =>
    perform connector timeout (Fetcher.onName pattern fun pattern => .queryMany pattern names)
  | .stats => do return respond (← onEndpoint Fetcher.drain)

/-- What comes after a request: the service ends when it has closed the session. -/
def flow : Request → Flow
  | .disconnect => .stop
  | _ => .carryOn

/-- Closes the session, if one is open. -/
def shutdown (connector : Connector κ) : Timed (Handler κ) Unit := do
  let _ ← perform connector none (.ok .disconnect)
  return ()

/-- The time passes. -/
def tick (milliseconds : Nat) (handler : Handler κ) : Handler κ :=
  { handler with
    endpoint := (handler.endpoint.1.tick milliseconds, handler.endpoint.2) }

end Handler

end BeanBridge
