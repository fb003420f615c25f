import BeanBridge.BeanName.Parser
import BeanBridge.Connector.Call

/-! An endpoint that follows a script: it notes every call and gives the next reply of the script.
-/

namespace BeanBridge

/-- What a reply of a script comes to. -/
inductive Script.Effect where
  /-- The call succeeds, with what the reply holds for a call of its kind. -/
  | ok
  | fail (error : ConnectorError)
  | crash (message : String)

structure Script.Reply where
  /-- The milliseconds before the reply. -/
  delay : Nat := 0
  effect : Script.Effect := .ok
  /-- The reply is meant for closing a session. -/
  isForClose : Bool := false
  names : List String := []
  /-- The attributes of a bean, and whether they can be read. -/
  attributes : List (String × Bool) := []
  value : Value := .null
  values : List (String × Value) := []

/-- A script, and the calls made since they were last looked at, the latest first. -/
structure Script where
  replies : List Script.Reply := []
  calls : List Call := []
  /-- How many sessions were opened. -/
  connects : Nat := 0

namespace Script

/-- The names of a reply, or the failure of the first that is none. -/
def parseNames (names : List String) : Except ConnectorError (List BeanName) :=
  names.mapM fun text =>
    (BeanName.parse text).mapError fun flaw => .protocol (flaw.message text)

/-- The next reply, `read` telling what it holds for the call. -/
def follow {α : Type} (read : Reply → Timed Script (Except ConnectorError α)) :
    Timed Script (Outcome (Except ConnectorError α)) := do
  let script ← Action.get
  match script.replies with
  | [] => return .value (.error (.protocol "script exhausted"))
  | reply :: replies =>
    Action.modify ({ · with replies })
    if reply.delay ≠ 0 then Timed.pause reply.delay
    match reply.effect with
    | .crash message => return .crash (some message)
    | .fail error => return .value (.error error)
    | .ok => return .value (← read reply)

def note (call : Call) : Timed Script Unit :=
  Action.modify fun script => { script with calls := call :: script.calls }

/-- The number of a session that is opened. -/
def opened : Timed Script (Except ConnectorError SessionHandle) := do
  Action.modify fun script => { script with connects := script.connects + 1 }
  return .ok ⟨(← Action.get).connects⟩

/-- What is known of a bean with the attributes of a reply. -/
def info (attributes : List (String × Bool)) : BeanInfo where
  attributes := attributes.map fun (name, isReadable) => ⟨name, "", isReadable⟩

/-- Answers calls from a script.  Closing takes a reply only if the next one is meant for it. -/
def connector : Connector Script
  | .connect target environment => do
    note (.connect target environment)
    follow fun _ => opened
  | .names session pattern => do
    note (.names session pattern)
    follow fun reply => pure (parseNames reply.names)
  | .describe session bean => do
    note (.describe session bean)
    follow fun reply => pure (.ok (info reply.attributes))
  | .read session bean name => do
    note (.read session bean name)
    follow fun reply => pure (.ok reply.value)
  | .readMany session bean names => do
    note (.readMany session bean names)
    follow fun reply => pure (.ok reply.values)
  | .close session => do
    note (.close session)
    let script ← Action.get
    match script.replies with
    | reply :: _ =>
      if reply.isForClose then follow fun _ => pure (.ok ()) else return .value (.ok ())
    | [] => return .value (.ok ())

end Script

end BeanBridge
