import BeanBridge.Connector.Call
import BeanBridge.Failure

/-! The worker that does jobs one after another, and the callers that wait for them.  A caller waits
up to its deadline; a job whose caller has given up is dropped where it stands, or never begun. -/

namespace BeanBridge

/-- A job for the worker, and how long its caller waits for it. -/
structure Submission (σ α : Type) where
  /-- The deadline in milliseconds; none when not positive. -/
  timeout : Int64
  job : Timed σ (Outcome (Except Failure α))

namespace Executor

variable {σ α : Type}

/-- How many submissions wait in the queue before callers have to wait to submit. -/
def queueDepth : Nat := 32

/-- What the caller of a finished job gets. -/
def delivered : Outcome (Except Failure α) → Except Failure α
  | .value result => result
  | .crash message => .error (Fault.crashed message).failure

/-- What the caller of a job gets that was finished in time, or was not. -/
def verdict (timeout : Int64) : Option (Outcome (Except Failure α)) → Except Failure α
  | some outcome => delivered outcome
  | none => .error (Fault.timedOut timeout).failure

/-- Does the job of a caller that has been waiting for some time. -/
def perform (submission : Submission σ α) (waited : Nat) : Timed σ (Except Failure α) :=
  if submission.timeout.toInt ≤ 0 then do
    return delivered (← submission.job)
  else
    let limit := submission.timeout.toInt.toNat
    if limit ≤ waited then pure (verdict submission.timeout none)
    else do return verdict submission.timeout (← submission.job.within (limit - waited))

/-- When a caller began to wait, given the times, latest first, at which the jobs submitted before
its own were taken: at once while the queue had room, else when it got room. -/
def armedAt (taken : List Nat) : Nat := (taken[queueDepth - 1]?).getD 0

/-- Does the jobs in the order in which they were submitted, all at time zero. -/
def performAll (taken : List Nat) (now : Nat) :
    List (Submission σ α) → Timed σ (List (Except Failure α))
  | [] => pure []
  | submission :: submissions => do
    let (result, elapsed) ← (perform submission (now - armedAt taken)).timed
    let results ← performAll (now :: taken) (now + elapsed) submissions
    return result :: results

/-- What the callers get that submit jobs at the same time, in this order.  Without a worker they
are interrupted. -/
def callAll (isRunning : Bool) (submissions : List (Submission σ α)) :
    Timed σ (List (Except Failure α)) :=
  if isRunning then performAll [] 0 submissions
  else pure (submissions.map fun _ => .error Fault.interrupted.failure)

/-- What a caller gets that submits a job while no other is waiting. -/
def call (submission : Submission σ α) : Timed σ (Except Failure α) := perform submission 0

end Executor

end BeanBridge
