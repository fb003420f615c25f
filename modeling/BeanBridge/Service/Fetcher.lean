import BeanBridge.Executor.Basic
import BeanBridge.Session.Operation

/-! Operations with deadlines.  Names are read before anything is submitted, so a malformed name
never reaches the session. -/

namespace BeanBridge

/-- A session, and the connector behind it. -/
abbrev Endpoint (κ : Type) : Type := Session × κ

namespace Fetcher

variable {κ : Type}

/-- The version of the bridge. -/
def version : String := "0.4.0"

/-- The operation as a job for the worker. -/
def submission (connector : Connector κ) (timeout : Int64) (operation : Operation) :
    Submission (Endpoint κ) Response where
  timeout
  job := operation.act.answeredBy connector

/-- The operation on the bean or pattern that a text names. -/
def onName (text : String) (operation : BeanName → Operation) : Except Failure Operation :=
  (BeanName.parseForOperation text).map operation

/-- Does an operation, or reports why there is none to do. -/
def call (connector : Connector κ) (timeout : Int64) (operation : Except Failure Operation) :
    Timed (Endpoint κ) (Except Failure Response) :=
  match operation with
  | .error failure => pure (.error failure)
  | .ok operation => Executor.call (submission connector timeout operation)

/-- Takes the recorded calls. -/
def drain : Timed (Endpoint κ) (Except Failure Response) := do
  let (session, _) ← Action.get
  match session.stats.drain? with
  | none => return .error Fault.statsOff.failure
  | some (records, stats) =>
    Action.modify fun (session, inner) => ({ session with stats }, inner)
    return .ok (.stats records)

/-- One of several calls made at the same time. -/
inductive Concurrent where
  | version
  | stats
  | operation (timeout : Int64) (operation : Except Failure Operation)

/-- What a call made at the same time as others is at once answered with, if it needs no job. -/
def Concurrent.atOnce : Concurrent → Timed (Endpoint κ) (Option (Except Failure Response))
  | version => pure (some (.ok (.version Fetcher.version)))
  | stats => do return some (← drain)
  | operation _ (.error failure) => pure (some (.error failure))
  | operation _ (.ok _) => pure none

/-- The answers that are at hand, with the others put into the gaps. -/
def fill {α : Type} : List (Option α) → List α → List α
  | [], _ => []
  | some answer :: answers, others => answer :: fill answers others
  | none :: answers, other :: others => other :: fill answers others
  | none :: answers, [] => fill answers []

/-- The answers to calls made at the same time, in this order. -/
def callAll (connector : Connector κ) (calls : List Concurrent) :
    Timed (Endpoint κ) (List (Except Failure Response)) := do
  let answers ← calls.mapM Concurrent.atOnce
  let submissions := calls.filterMap fun
    | .operation timeout (.ok operation) => some (submission connector timeout operation)
    | _ => none
  return fill answers (← Executor.callAll true submissions)

end Fetcher

end BeanBridge
