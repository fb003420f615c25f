import BeanBridge.Executor.Basic

/-! Every course that the callers and the worker can take together.  Callers submit jobs into a
queue with room for so many, and the worker takes them from its front.  Each job has a token, which is
cancelled when its call ends.  The worker looks at the token before each poll of the job, and never
during a poll.  Between any two steps anything else can happen: calls are made, deadlines pass,
callers go away, also between a look and the poll that follows it.
`Executor.callAll` tells the one course in which all calls are made at once and nobody goes away. -/

namespace BeanBridge.Executor

variable {σ α Q : Type} {R : Q → Type}

/-- How far a call is. -/
inductive Progress (α : Type) where
  /-- There is no room for its job yet, and its deadline does not run. -/
  | outside
  /-- Its job was submitted at this time, from which on its deadline runs. -/
  | waiting (since : Nat)
  /-- Its job is finished. -/
  | served (outcome : Outcome (Except Failure α))
  | returned (result : Except Failure α)
  /-- The caller went away. -/
  | abandoned

namespace Progress

/-- The call is over. -/
def isOver : Progress α → Bool
  | returned _ | abandoned => true
  | _ => false

/-- The job is submitted, and the call is not over. -/
def isInside : Progress α → Bool
  | waiting _ | served _ => true
  | _ => false

end Progress

/-- A call with its job. -/
structure Caller (σ : Type) (R : Q → Type) (α : Type) where
  /-- The deadline in milliseconds; none when not positive. -/
  timeout : Int64
  job : Action σ R (Outcome (Except Failure α))
  /-- When the call was made. -/
  calledAt : Nat
  progress : Progress α := .outside
  /-- The token of the job is cancelled. -/
  isCancelled : Bool := false

namespace Caller

/-- The job is submitted. -/
def enter (now : Nat) (caller : Caller σ R α) : Caller σ R α :=
  { caller with progress := .waiting now }

/-- The job sends its outcome, which is lost unless the caller waits for it. -/
def serve (outcome : Outcome (Except Failure α)) (caller : Caller σ R α) : Caller σ R α :=
  match caller.progress with
  | .waiting _ => { caller with progress := .served outcome }
  | _ => caller

/-- The call ends, which cancels the token of a job that was submitted. -/
def close (progress : Progress α) (caller : Caller σ R α) : Caller σ R α :=
  { caller with progress, isCancelled := caller.isCancelled || caller.progress.isInside }

end Caller

/-- A job that was begun: whose it is, and what is left of it. -/
structure Work (σ : Type) (R : Q → Type) (α : Type) where
  caller : Nat
  rest : Dialogue σ R (Outcome (Except Failure α))

/-- What the worker is about. -/
inductive Worker (σ : Type) (R : Q → Type) (α : Type) where
  | idle
  /-- It has taken a job from the queue. -/
  | taken (caller : Nat)
  /-- It has a job that is suspended or not begun yet. -/
  | keeping (caller : Nat) (rest : Option (Dialogue σ R (Outcome (Except Failure α))))
  /-- It has looked at the token of the job, and polls the job. -/
  | polling (caller : Nat) (rest : Option (Dialogue σ R (Outcome (Except Failure α))))

namespace Worker

/-- Whose job the worker has. -/
def caller? : Worker σ R α → Option Nat
  | idle => none
  | taken i | keeping i _ | polling i _ => some i

/-- The job that the worker has begun. -/
def work : Worker σ R α → Option (Work σ R α)
  | keeping i (some rest) | polling i (some rest) => some ⟨i, rest⟩
  | _ => none

end Worker

/-- All callers, the queue and the worker.  Callers go by the order of their calls. -/
structure World (σ : Type) (R : Q → Type) (α : Type) where
  /-- What the jobs work on, as the last of them left it. -/
  state : σ
  now : Nat := 0
  callers : List (Caller σ R α) := []
  /-- Whose jobs wait for the worker, the next first. -/
  queue : List Nat := []
  worker : Worker σ R α := .idle
  /-- There is a worker. -/
  isRunning : Bool := true

namespace World

/-- How far a call is; one that was not made is outside. -/
def progress (world : World σ R α) (i : Nat) : Progress α :=
  ((world.callers[i]?).map (·.progress)).getD .outside

/-- The token of a caller's job is cancelled. -/
def isCancelled (world : World σ R α) (i : Nat) : Bool :=
  ((world.callers[i]?).map (·.isCancelled)).getD false

/-- Something becomes of a call. -/
def update (world : World σ R α) (i : Nat) (change : Caller σ R α → Caller σ R α) :
    World σ R α :=
  { world with callers := world.callers.modify i change }

/-- A call is made. -/
def call (world : World σ R α) (timeout : Int64)
    (job : Action σ R (Outcome (Except Failure α))) : World σ R α :=
  { world with callers := world.callers ++ [{ timeout, job, calledAt := world.now }] }

/-- A job is submitted. -/
def enter (world : World σ R α) (i : Nat) : World σ R α :=
  { world.update i (·.enter world.now) with queue := world.queue ++ [i] }

/-- The job that the worker has begun. -/
def work (world : World σ R α) : Option (Work σ R α) := world.worker.work

/-- The job of a caller is in the queue or in the worker's hands. -/
def Holds (world : World σ R α) (i : Nat) : Prop :=
  i ∈ world.queue ∨ world.worker.caller? = some i

/-- What the jobs work on, as it is now. -/
def current (world : World σ R α) : σ :=
  match world.work with
  | some work => work.rest.state
  | none => world.state

/-- The worker leaves its job, if it has one, where it is. -/
def leave (world : World σ R α) : World σ R α :=
  { world with state := world.current, worker := .idle }

end World

/-- What happens in a step. -/
inductive Event where
  | call
  /-- The job of a caller enters the queue. -/
  | enter (caller : Nat)
  /-- The worker takes a job from the queue. -/
  | take (caller : Nat)
  /-- The worker looks at the token of a job that it has taken, and drops the job. -/
  | skip (caller : Nat)
  /-- The worker looks at the token of a job that it has taken, and keeps the job. -/
  | keep (caller : Nat)
  /-- The worker looks at the token of a job that it keeps, and polls the job. -/
  | look (caller : Nat)
  /-- The worker looks at the token of a job that it keeps, and drops the job. -/
  | cancel (caller : Nat)
  /-- A job begins in its first poll. -/
  | start (caller : Nat)
  /-- A job goes on in a poll. -/
  | resume (caller : Nat)
  /-- A poll ends with a question that has no answer yet. -/
  | suspend (caller : Nat)
  /-- A poll ends with the job, which sends its outcome to the caller. -/
  | finish (caller : Nat)
  | returnOutcome (caller : Nat)
  /-- A call returns because its deadline has passed. -/
  | expire (caller : Nat)
  /-- A call returns because nobody has its job any more. -/
  | interrupt (caller : Nat)
  | goAway (caller : Nat)
  | passTime (milliseconds : Nat)
  /-- The worker disappears, with the job in hand and the queue. -/
  | stop
  deriving DecidableEq

/-- One step of a course. -/
inductive Step : World σ R α → Event → World σ R α → Prop where
  | call (world : World σ R α) (timeout : Int64)
      (job : Action σ R (Outcome (Except Failure α))) :
      Step world .call (world.call timeout job)
  | enter {world : World σ R α} {i : Nat} {caller : Caller σ R α} :
      world.isRunning → world.callers[i]? = some caller → caller.progress = .outside →
      world.queue.length < queueDepth →
      Step world (.enter i) (world.enter i)
  | take {world : World σ R α} {i : Nat} {queue : List Nat} :
      world.isRunning → world.worker = .idle → world.queue = i :: queue →
      Step world (.take i) { world with queue, worker := .taken i }
  | skip {world : World σ R α} {i : Nat} :
      world.worker = .taken i → world.isCancelled i = true →
      Step world (.skip i) { world with worker := .idle }
  | keep {world : World σ R α} {i : Nat} :
      world.worker = .taken i → world.isCancelled i = false →
      Step world (.keep i) { world with worker := .keeping i none }
  | look {world : World σ R α} {i : Nat}
      {rest : Option (Dialogue σ R (Outcome (Except Failure α)))} :
      world.worker = .keeping i rest → world.isCancelled i = false →
      Step world (.look i) { world with worker := .polling i rest }
  | cancel {world : World σ R α} {i : Nat}
      {rest : Option (Dialogue σ R (Outcome (Except Failure α)))} :
      world.worker = .keeping i rest → world.isCancelled i = true →
      Step world (.cancel i) world.leave
  | start {world : World σ R α} {i : Nat} {caller : Caller σ R α} :
      world.worker = .polling i none → world.callers[i]? = some caller →
      Step world (.start i) { world with worker := .polling i (some (caller.job world.state)) }
  | resume {world : World σ R α} {i : Nat} {state : σ} {question : Q}
      {rest : R question → σ → Dialogue σ R (Outcome (Except Failure α))} (reply : R question) :
      world.worker = .polling i (some (.ask state question rest)) →
      Step world (.resume i) { world with worker := .polling i (some (rest reply state)) }
  | suspend {world : World σ R α} {i : Nat} {state : σ} {question : Q}
      {rest : R question → σ → Dialogue σ R (Outcome (Except Failure α))} :
      world.worker = .polling i (some (.ask state question rest)) →
      Step world (.suspend i)
        { world with worker := .keeping i (some (.ask state question rest)) }
  | finish {world : World σ R α} {i : Nat} {state : σ} {outcome : Outcome (Except Failure α)} :
      world.worker = .polling i (some (.done state outcome)) →
      Step world (.finish i) { world.update i (·.serve outcome) with state, worker := .idle }
  | returnOutcome {world : World σ R α} {i : Nat} {caller : Caller σ R α}
      {outcome : Outcome (Except Failure α)} :
      world.callers[i]? = some caller → caller.progress = .served outcome →
      Step world (.returnOutcome i) (world.update i (·.close (.returned (delivered outcome))))
  | expire {world : World σ R α} {i since : Nat} {caller : Caller σ R α} :
      world.callers[i]? = some caller → caller.progress = .waiting since →
      0 < caller.timeout.toInt → since + caller.timeout.toInt.toNat ≤ world.now →
      Step world (.expire i)
        (world.update i (·.close (.returned (.error (Fault.timedOut caller.timeout).failure))))
  | interrupt {world : World σ R α} {i : Nat} {caller : Caller σ R α} :
      world.callers[i]? = some caller →
      (caller.progress = .outside ∧ ¬world.isRunning) ∨
        (∃ since, caller.progress = .waiting since ∧ ¬world.Holds i) →
      Step world (.interrupt i)
        (world.update i (·.close (.returned (.error Fault.interrupted.failure))))
  | goAway {world : World σ R α} {i : Nat} {caller : Caller σ R α} :
      world.callers[i]? = some caller → ¬caller.progress.isOver →
      Step world (.goAway i) (world.update i (·.close .abandoned))
  | passTime (world : World σ R α) (milliseconds : Nat) :
      Step world (.passTime milliseconds) { world with now := world.now + milliseconds }
  | stop {world : World σ R α} :
      world.isRunning →
      Step world .stop { world.leave with queue := [], isRunning := false }

/-- A course from a state of the jobs' making that nobody has called for yet, with its events in
order. -/
inductive Course (state : σ) : List Event → World σ R α → Prop where
  | begin : Course state [] { state }
  | step {events : List Event} {event : Event} {world next : World σ R α} :
      Course state events world → Step world event next → Course state (events ++ [event]) next

end BeanBridge.Executor
