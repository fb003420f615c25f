import Mathlib.Data.List.Induction
import BeanBridge.Executor.Course
import BeanBridge.Proofs.Dialogue

/-! Calls made at the same time.  What `Executor.callAll` tells the callers is what they get in a
course: all calls are made at once, jobs enter the queue as soon as there is room, and a deadline
that has passed takes effect when the worker comes to the job or while it waits over it. -/

namespace BeanBridge

/-- The call for the job, made at time zero. -/
def Submission.caller {σ α : Type} (submission : Submission σ α) (progress : Executor.Progress α) :
    Executor.Caller σ Wait.Reply α where
  timeout := submission.timeout
  job := submission.job
  calledAt := 0
  progress
  isCancelled := progress.isOver

namespace Executor

variable {σ α : Type}

theorem getElem?_length_append {β : Type} (front : List β) (value : β) (back : List β) :
    (front ++ value :: back)[front.length]? = some value := by
  rw [List.getElem?_append_right (Nat.le_refl _), Nat.sub_self, List.getElem?_cons_zero]

theorem modify_length_append {β : Type} (front : List β) (value : β) (back : List β)
    (change : β → β) :
    (front ++ value :: back).modify front.length change = front ++ change value :: back := by
  induction front with
  | nil => rfl
  | cons first front ih => exact congrArg (first :: ·) ih

theorem run_timed_map {β γ : Type} (tick : Nat → σ → σ) (change : β → γ)
    (dialogue : Dialogue σ Wait.Reply β) (elapsed : Nat) :
    ((dialogue.bind fun value state => .done state (change value)).timed elapsed).run tick =
      ((change ((dialogue.timed elapsed).run tick).1.1, ((dialogue.timed elapsed).run tick).1.2),
        ((dialogue.timed elapsed).run tick).2) := by
  induction dialogue generalizing elapsed with
  | done state value => rfl
  | ask state wait resume ih => exact ih () _ _

/-- To look at the clock changes nothing. -/
theorem run_timed {β : Type} (tick : Nat → σ → σ) (dialogue : Dialogue σ Wait.Reply β)
    (elapsed : Nat) :
    (((dialogue.timed elapsed).run tick).1.1, ((dialogue.timed elapsed).run tick).2) =
      dialogue.run tick := by
  induction dialogue generalizing elapsed with
  | done state value => rfl
  | ask state wait resume ih => exact ih () _ _

/-- Some course leads to the moment. -/
def Reachable (start : σ) (world : World σ Wait.Reply α) : Prop :=
  ∃ events, Course start events world

theorem Reachable.step {start : σ} {world next : World σ Wait.Reply α} {event : Event}
    (h : Reachable start world) (hStep : Step world event next) : Reachable start next := by
  obtain ⟨events, hCourse⟩ := h
  exact ⟨_, hCourse.step hStep⟩

/-- A turn of the worker: the calls before it, the one whose turn it is, and the line behind it. -/
structure Turn (σ α : Type) where
  before : List (Caller σ Wait.Reply α)
  submission : Submission σ α
  line : List (Caller σ Wait.Reply α)
  queue : List Nat

/-- A moment of the turn. -/
def Turn.world (turn : Turn σ α) (state : σ) (now : Nat) (progress : Progress α)
    (worker : Worker σ Wait.Reply α) : World σ Wait.Reply α where
  state
  now
  callers := turn.before ++ turn.submission.caller progress :: turn.line
  queue := turn.queue
  worker

section Turn

variable {turn : Turn σ α} {state start : σ} {now since : Nat} {worker : Worker σ Wait.Reply α}
  {rest : Dialogue σ Wait.Reply (Outcome (Except Failure α))}

theorem Turn.isCancelled_world (progress : Progress α) (worker : Worker σ Wait.Reply α) :
    (turn.world state now progress worker).isCancelled turn.before.length = progress.isOver := by
  rw [World.isCancelled, Turn.world, getElem?_length_append]
  rfl

theorem Turn.update_world {progress next : Progress α}
    {change : Caller σ Wait.Reply α → Caller σ Wait.Reply α}
    (h : change (turn.submission.caller progress) = turn.submission.caller next)
    (worker : Worker σ Wait.Reply α) :
    (turn.world state now progress worker).update turn.before.length change =
      turn.world state now next worker := by
  rw [World.update, Turn.world, modify_length_append, h]
  rfl

theorem Reachable.finish {final : σ} {outcome : Outcome (Except Failure α)}
    (h : Reachable start (turn.world state now (.waiting since)
      (.polling turn.before.length (some (.done final outcome))))) :
    Reachable start (turn.world final now (.returned (delivered outcome)) .idle) := by
  have hServed : Reachable start (turn.world final now (.served outcome) .idle) := by
    have hNext := h.step (.finish rfl)
    rw [Turn.update_world rfl] at hNext
    exact hNext
  have hReturned := hServed.step (.returnOutcome (getElem?_length_append ..) rfl)
  rwa [Turn.update_world rfl] at hReturned

/-- A job that waits is suspended, and goes on in the next poll. -/
theorem Reachable.wait {found : σ} {wait : Wait}
    {resume : Unit → σ → Dialogue σ Wait.Reply (Outcome (Except Failure α))}
    (h : Reachable start (turn.world state now (.waiting since)
      (.polling turn.before.length (some (.ask found wait resume))))) :
    Reachable start (turn.world state (now + wait.milliseconds) (.waiting since)
      (.polling turn.before.length (some (resume () found)))) := by
  have hLater : Reachable start (turn.world state (now + wait.milliseconds) (.waiting since)
      (.keeping turn.before.length (some (.ask found wait resume)))) :=
    (h.step (.suspend rfl)).step (.passTime _ wait.milliseconds)
  have hResumed := (hLater.step (.look rfl (Turn.isCancelled_world _ _))).step (.resume () rfl)
  exact hResumed

/-- The deadline passes over a job in hand. -/
theorem Reachable.giveUp
    (h : Reachable start (turn.world state now (.waiting since)
      (.keeping turn.before.length (some rest))))
    (hLimit : 0 < turn.submission.timeout.toInt)
    (hNow : since + turn.submission.timeout.toInt.toNat ≤ now) :
    Reachable start (turn.world rest.state now
      (.returned (.error (Fault.timedOut turn.submission.timeout).failure)) .idle) := by
  have hExpired := h.step (.expire (getElem?_length_append ..) rfl hLimit hNow)
  rw [Turn.update_world rfl] at hExpired
  exact hExpired.step (.cancel rfl (Turn.isCancelled_world _ _))

/-- A job without a deadline runs to its end. -/
theorem Reachable.run_job {begun elapsed : Nat}
    (h : Reachable start (turn.world state (begun + elapsed) (.waiting since)
      (.polling turn.before.length (some rest)))) :
    ∃ outcome final after, (rest.timed elapsed).run (fun _ state => state) =
        ((outcome, after), final) ∧
      Reachable start (turn.world final (begun + after) (.returned (delivered outcome)) .idle) := by
  induction rest generalizing elapsed with
  | done final outcome => exact ⟨outcome, final, elapsed, rfl, h.finish⟩
  | ask found wait resume ih =>
    have hLater := h.wait
    rw [Nat.add_assoc] at hLater
    exact ih () found hLater

/-- A job with a deadline runs to its end if it gets there in time. -/
theorem Reachable.run_within {begun elapsed limit : Nat}
    (h : Reachable start (turn.world state (begun + elapsed) (.waiting since)
      (.polling turn.before.length (some rest))))
    (hLimit : 0 < limit) (hTimeout : 0 < turn.submission.timeout.toInt)
    (hDeadline : since + turn.submission.timeout.toInt.toNat = begun + elapsed + limit) :
    ∃ found final after, ((rest.within limit).timed elapsed).run (fun _ state => state) =
        ((found, after), final) ∧
      Reachable start (turn.world final (begun + after)
        (.returned (verdict turn.submission.timeout found)) .idle) := by
  induction rest generalizing elapsed limit with
  | done final outcome => exact ⟨some outcome, final, elapsed, rfl, h.finish⟩
  | ask found wait resume ih =>
    rw [Dialogue.within]
    by_cases hTime : wait.milliseconds < limit
    · rw [if_pos hTime]
      have hLater := h.wait
      rw [Nat.add_assoc] at hLater
      exact ih () found hLater (by omega) (by omega)
    · rw [if_neg hTime]
      -- The wait would end with the deadline or after it, and the deadline comes first.
      refine ⟨none, found, elapsed + limit, rfl, ?_⟩
      have hPassed : Reachable start (turn.world state (begun + (elapsed + limit)) (.waiting since)
          (.keeping turn.before.length (some (.ask found wait resume)))) := by
        rw [← Nat.add_assoc]
        exact (h.step (.suspend rfl)).step (.passTime _ limit)
      exact hPassed.giveUp hTimeout (by omega)

/-- The worker takes a job from the queue, others come in, and the caller gets what it gets. -/
theorem Reachable.perform {queue : List Nat} {line : List (Caller σ Wait.Reply α)}
    (hSince : since ≤ now)
    (hAdmit : ∀ progress worker, Reachable start (turn.world state now progress worker) →
      Reachable start (Turn.world { turn with line, queue } state now progress worker))
    (h : Reachable start (Turn.world { turn with queue := turn.before.length :: turn.queue }
      state now (.waiting since) .idle)) :
    ∃ result final elapsed,
      ((Executor.perform turn.submission (now - since) state).timed 0).run (fun _ state => state) =
        ((result, elapsed), final) ∧
      Reachable start
        (Turn.world { turn with line, queue } final (now + elapsed) (.returned result) .idle) := by
  have hTaken : Reachable start
      (turn.world state now (.waiting since) (.taken turn.before.length)) :=
    h.step (.take rfl rfl rfl)
  have hLooked : Reachable start
      (turn.world state now (.waiting since) (.polling turn.before.length none)) :=
    (hTaken.step (.keep rfl (Turn.isCancelled_world _ _))).step
      (.look rfl (Turn.isCancelled_world _ _))
  have hStarted := hLooked.step (.start rfl (getElem?_length_append ..))
  have hAdmitted := hAdmit (.waiting since)
    (.polling turn.before.length (some (turn.submission.job state))) hStarted
  rw [← Nat.add_zero now] at hAdmitted
  rw [Executor.perform]
  by_cases hNone : turn.submission.timeout.toInt ≤ 0
  · rw [if_pos hNone]
    obtain ⟨outcome, final, after, hRun, hEnd⟩ := hAdmitted.run_job
    refine ⟨delivered outcome, final, after, ?_, hEnd⟩
    have hMap := run_timed_map (fun _ state => state) delivered
      (turn.submission.job state) 0
    rw [hRun] at hMap
    exact hMap
  · rw [if_neg hNone]
    have hTimeout : 0 < turn.submission.timeout.toInt := by omega
    -- A deadline counts from the submission, and may have passed before the worker comes to the job.
    by_cases hLate : turn.submission.timeout.toInt.toNat ≤ now - since
    · simp only [if_pos hLate]
      have hPast : since + turn.submission.timeout.toInt.toNat ≤ now := by omega
      have hExpired := hTaken.step (.expire (getElem?_length_append ..) rfl hTimeout hPast)
      rw [Turn.update_world rfl] at hExpired
      exact ⟨_, state, 0, rfl,
        hAdmit _ _ (hExpired.step (.skip rfl (Turn.isCancelled_world _ _)))⟩
    · simp only [if_neg hLate]
      have hDeadline : since + turn.submission.timeout.toInt.toNat =
          now + 0 + (turn.submission.timeout.toInt.toNat - (now - since)) := by omega
      obtain ⟨found, final, after, hRun, hEnd⟩ :=
        hAdmitted.run_within (by omega) hTimeout hDeadline
      refine ⟨verdict turn.submission.timeout found, final, after, ?_, hEnd⟩
      have hMap := run_timed_map (fun _ state => state) (verdict turn.submission.timeout)
        ((turn.submission.job state).within
          (turn.submission.timeout.toInt.toNat - (now - since))) 0
      rw [hRun] at hMap
      exact hMap

end Turn

/-- How far a call is whose job has so many others before it since the worker was last free: it has
been waiting since there was room for it. -/
def standing (taken : List Nat) (position : Nat) : Progress α :=
  if position < queueDepth then .waiting ((taken[queueDepth - 1 - position]?).getD 0) else .outside

theorem standing_outside {position : Nat} (h : queueDepth ≤ position) (taken : List Nat) :
    standing taken position = (.outside : Progress α) :=
  if_neg (Nat.not_lt.mpr h)

theorem standing_cons {position : Nat} (h : position + 1 < queueDepth) (now : Nat)
    (taken : List Nat) :
    standing (now :: taken) position = (standing taken (position + 1) : Progress α) := by
  have hPosition : position < queueDepth := by omega
  have hIndex : queueDepth - 1 - position = queueDepth - 1 - (position + 1) + 1 := by omega
  rw [standing, standing, if_pos hPosition, if_pos h, hIndex, List.getElem?_cons_succ]

theorem standing_last {position : Nat} (h : position + 1 = queueDepth) (now : Nat)
    (taken : List Nat) : standing (now :: taken) position = (.waiting now : Progress α) := by
  have hPosition : position < queueDepth := by omega
  have hIndex : queueDepth - 1 - position = 0 := by omega
  rw [standing, if_pos hPosition, hIndex]
  rfl

/-- The calls in line, from a position on. -/
def lineup (taken : List Nat) : Nat → List (Submission σ α) → List (Caller σ Wait.Reply α)
  | _, [] => []
  | position, submission :: submissions =>
    submission.caller (standing taken position) :: lineup taken (position + 1) submissions

theorem lineup_outside {position : Nat} (h : queueDepth ≤ position) (taken : List Nat)
    (submissions : List (Submission σ α)) :
    lineup taken position submissions = submissions.map (·.caller .outside) := by
  induction submissions generalizing position with
  | nil => rfl
  | cons submission submissions ih =>
    rw [lineup, standing_outside h, ih (Nat.le_succ_of_le h), List.map_cons]

/-- When the worker has taken a job, the next one in the line gets room, if there is one. -/
theorem lineup_cons (taken : List Nat) (now : Nat) {position : Nat}
    (hPosition : position < queueDepth) (submissions : List (Submission σ α)) :
    (submissions.length + position < queueDepth ∧
      lineup (now :: taken) position submissions = lineup taken (position + 1) submissions) ∨
    queueDepth ≤ submissions.length + position ∧
      ∃ (front : List (Caller σ Wait.Reply α)) (submission : Submission σ α)
        (back : List (Caller σ Wait.Reply α)), front.length + position + 1 = queueDepth ∧
        lineup taken (position + 1) submissions = front ++ submission.caller .outside :: back ∧
        lineup (now :: taken) position submissions =
          front ++ submission.caller (.waiting now) :: back := by
  induction submissions generalizing position with
  | nil => exact .inl ⟨by simpa using hPosition, rfl⟩
  | cons submission submissions ih =>
    -- The places in the queue move up by one, and the last is the first that was outside.
    rcases Nat.lt_or_eq_of_le (Nat.succ_le_of_lt hPosition) with hRoom | hLast
    · rcases ih hRoom with ⟨hShort, hSame⟩ | ⟨hLong, front, next, back, hFront, hBefore, hAfter⟩
      · refine .inl ⟨?_, ?_⟩
        · rw [List.length_cons]
          omega
        · rw [lineup, lineup, standing_cons hRoom, hSame]
      · refine .inr ⟨?_, submission.caller (standing taken (position + 1)) :: front, next, back,
          ?_, ?_, ?_⟩
        · rw [List.length_cons]
          omega
        · rw [List.length_cons]
          omega
        · rw [lineup, hBefore, List.cons_append]
        · rw [lineup, standing_cons hRoom, hAfter, List.cons_append]
    · refine .inr ⟨?_, [], submission, lineup taken (position + 2) submissions, ?_, ?_, ?_⟩
      · rw [List.length_cons]
        omega
      · rw [List.length_nil]
        omega
      · rw [lineup, standing_outside (Nat.le_of_eq hLast.symm)]
        rfl
      · rw [lineup, standing_last hLast, lineup_outside (by omega), lineup_outside (by omega)]
        rfl

/-- The moment before a job is taken, with room in the queue for those who come first. -/
def atRest (before : List (Caller σ Wait.Reply α)) (taken : List Nat)
    (submissions : List (Submission σ α)) (now : Nat) (state : σ) : World σ Wait.Reply α where
  state
  now
  callers := before ++ lineup taken 0 submissions
  queue := List.range' before.length (min queueDepth submissions.length)

/-- Who comes next submits its job as soon as there is room. -/
theorem Reachable.admit {start state : σ} {now : Nat} {before : List (Caller σ Wait.Reply α)}
    {caller : Caller σ Wait.Reply α} {taken : List Nat} {submissions : List (Submission σ α)}
    {worker : Worker σ Wait.Reply α}
    (h : Reachable start
      { state, now, worker
        callers := before ++ caller :: lineup taken 1 submissions
        queue := List.range' (before.length + 1) (min queueDepth (submissions.length + 1) - 1) }) :
    Reachable start
      { state, now, worker
        callers := before ++ caller :: lineup (now :: taken) 0 submissions
        queue := List.range' (before.length + 1) (min queueDepth submissions.length) } := by
  rcases lineup_cons taken now (by decide : 0 < queueDepth) submissions with
    ⟨hShort, hSame⟩ | ⟨hLong, front, submission, back, hFront, hBefore, hAfter⟩
  · have hQueue : min queueDepth (submissions.length + 1) - 1 =
        min queueDepth submissions.length := by omega
    rwa [hQueue, ← hSame] at h
  · have hQueue : min queueDepth (submissions.length + 1) - 1 = queueDepth - 1 := by omega
    have hFull : min queueDepth submissions.length = queueDepth - 1 + 1 := by omega
    have hNumber : (before ++ caller :: front).length = before.length + 1 + (queueDepth - 1) := by
      rw [List.length_append, List.length_cons]
      omega
    rw [hQueue, hBefore, ← List.cons_append, ← List.append_assoc] at h
    have hRoom : (List.range' (before.length + 1) (queueDepth - 1)).length < queueDepth := by
      rw [List.length_range']
      decide
    have hEntered := h.step (.enter rfl (getElem?_length_append ..) rfl hRoom)
    rw [World.enter, World.update, modify_length_append, hNumber] at hEntered
    rw [hFull, List.range'_concat, Nat.one_mul, hAfter, ← List.cons_append, ← List.append_assoc]
    exact hEntered

theorem armedAt_le {taken : List Nat} {now : Nat} (h : ∀ time ∈ taken, time ≤ now) :
    armedAt taken ≤ now := by
  rw [armedAt]
  cases hTime : taken[queueDepth - 1]? with
  | none => exact Nat.zero_le now
  | some time => exact h time (List.mem_of_getElem? hTime)

/-- The calls with their results, and whether their jobs were submitted. -/
def settled (isSubmitted : Bool) (submissions : List (Submission σ α))
    (results : List (Except Failure α)) : List (Caller σ Wait.Reply α) :=
  submissions.zipWith (fun submission result =>
    { submission.caller (.returned result) with isCancelled := isSubmitted }) results

/-- The worker does all jobs of those in line, and all get their results. -/
theorem Reachable.performAll {start state : σ} {now : Nat} {before : List (Caller σ Wait.Reply α)}
    {taken : List Nat} {submissions : List (Submission σ α)}
    (h : Reachable start (atRest before taken submissions now state))
    (hTaken : ∀ time ∈ taken, time ≤ now) :
    ∃ results final later,
      (Executor.performAll taken now submissions state).run (fun _ state => state) =
        (results, final) ∧
      results.length = submissions.length ∧
      Reachable start
        { state := final, now := later, callers := before ++ settled true submissions results } := by
  -- Each turn ends where the next begins: a call returned in front, and the line moved up.
  induction submissions generalizing before taken now state with
  | nil => exact ⟨[], state, now, rfl, rfl, h⟩
  | cons submission submissions ih =>
    let turn : Turn σ α := {
      before, submission
      line := lineup taken 1 submissions
      queue := List.range' (before.length + 1) (min queueDepth (submissions.length + 1) - 1) }
    let line := lineup (now :: taken) 0 submissions
    let queue := List.range' (before.length + 1) (min queueDepth submissions.length)
    have hAdmit (progress : Progress α) (worker : Worker σ Wait.Reply α)
        (hMoment : Reachable start (turn.world state now progress worker)) :
        Reachable start (Turn.world { turn with line, queue } state now progress worker) :=
      hMoment.admit
    have hTurn : Reachable start (Turn.world { turn with queue := before.length :: turn.queue }
        state now (.waiting (armedAt taken)) .idle) := by
      have hCount : min queueDepth (submission :: submissions).length =
          min queueDepth (submissions.length + 1) - 1 + 1 := by
        rw [List.length_cons]
        have hDepth : 0 < queueDepth := by decide
        omega
      rw [atRest, hCount, List.range'_succ] at h
      exact h
    obtain ⟨result, after, elapsed, hRun, hEnd⟩ := hTurn.perform (armedAt_le hTaken) hAdmit
    have hNext : Reachable start (atRest (before ++ [submission.caller (.returned result)])
        (now :: taken) submissions (now + elapsed) after) := by
      rw [atRest, List.append_assoc, List.length_append]
      exact hEnd
    have hLater : ∀ time ∈ now :: taken, time ≤ now + elapsed := by
      refine List.forall_mem_cons.mpr ⟨Nat.le_add_right _ _, fun time hTime => ?_⟩
      exact Nat.le_add_right_of_le (hTaken time hTime)
    obtain ⟨results, final, later, hRest, hLength, hReached⟩ := ih hNext hLater
    refine ⟨result :: results, final, later, ?_, congrArg (· + 1) hLength, ?_⟩
    · rw [Executor.performAll, Action.run_bind hRun]
      show Dialogue.run _ ((_ >>= _ : Timed σ (List (Except Failure α))) after) = _
      rw [Action.run_bind hRest]
      rfl
    · rw [List.append_assoc] at hReached
      exact hReached

theorem lineup_concat (taken : List Nat) (position : Nat) (submissions : List (Submission σ α))
    (submission : Submission σ α) :
    lineup taken position (submissions ++ [submission]) =
      lineup taken position submissions ++
        [submission.caller (standing taken (position + submissions.length))] := by
  induction submissions generalizing position with
  | nil => rfl
  | cons first submissions ih =>
    rw [List.cons_append, lineup, ih, lineup, List.length_cons, List.cons_append]
    rw [Nat.add_assoc, Nat.add_comm 1]

theorem length_lineup (taken : List Nat) (position : Nat) (submissions : List (Submission σ α)) :
    (lineup taken position submissions).length = submissions.length := by
  induction submissions generalizing position with
  | nil => rfl
  | cons submission submissions ih => exact congrArg (· + 1) (ih _)

theorem Reachable.submit {start state : σ} {callers : List (Caller σ Wait.Reply α)}
    {queue : List Nat} (h : Reachable start { state, callers, queue })
    (hRoom : queue.length < queueDepth) (submission : Submission σ α) :
    Reachable start
      { state
        callers := callers ++ [submission.caller (.waiting 0)]
        queue := queue ++ [callers.length] } := by
  have hCalled := h.step (.call _ submission.timeout submission.job)
  have hEntered := hCalled.step (.enter rfl (getElem?_length_append ..) rfl hRoom)
  rw [World.enter, World.update, World.call, modify_length_append] at hEntered
  exact hEntered

/-- All calls can be made before the worker looks at the first. -/
theorem reachable_atRest (start : σ) (submissions : List (Submission σ α)) :
    Reachable start (atRest [] [] submissions 0 start) := by
  induction submissions using List.reverseRecOn with
  | nil => exact ⟨[], .begin⟩
  | append_singleton submissions submission ih =>
    rw [atRest, List.nil_append, lineup_concat, Nat.zero_add, List.length_nil, List.length_append,
      List.length_singleton]
    by_cases hRoom : submissions.length < queueDepth
    · have hFree : (List.range' 0 (min queueDepth submissions.length)).length < queueDepth := by
        rw [List.length_range']
        omega
      have hCount : min queueDepth submissions.length = submissions.length := by omega
      have hNext : min queueDepth (submissions.length + 1) = submissions.length + 1 := by omega
      have hStanding : standing [] submissions.length = (.waiting 0 : Progress α) := if_pos hRoom
      have hSubmitted := ih.submit hFree submission
      rw [List.nil_append, length_lineup, List.length_nil, hCount] at hSubmitted
      rwa [hNext, List.range'_concat, hStanding, Nat.zero_add, Nat.one_mul]
    · have hOutside : queueDepth ≤ submissions.length := Nat.le_of_not_lt hRoom
      have hCount : min queueDepth submissions.length =
          min queueDepth (submissions.length + 1) := by omega
      rw [standing_outside hOutside, ← hCount]
      exact ih.step (.call _ submission.timeout submission.job)

/-- Without a worker, all calls that are made are interrupted. -/
theorem reachable_interrupted (start : σ) (submissions : List (Submission σ α)) :
    Reachable start
      { state := start, isRunning := false
        callers := submissions.map fun submission =>
          { submission.caller (.returned (.error Fault.interrupted.failure)) with
            isCancelled := false } } := by
  induction submissions using List.reverseRecOn with
  | nil =>
    have hBegin : Reachable (α := α) start { state := start } := ⟨[], .begin⟩
    exact hBegin.step (.stop rfl)
  | append_singleton submissions submission ih =>
    have hCalled := ih.step (.call _ submission.timeout submission.job)
    have hInterrupted := hCalled.step
      (.interrupt (getElem?_length_append ..) (.inl ⟨rfl, Bool.false_ne_true⟩))
    rw [World.update, World.call, modify_length_append] at hInterrupted
    rw [List.map_append]
    exact hInterrupted

/-- What the callers are told that call at the same time is what they get in a course. -/
theorem callAll_course (isRunning : Bool) (submissions : List (Submission σ α)) (start : σ) :
    ∃ events world results final,
      (callAll isRunning submissions start).run (fun _ state => state) = (results, final) ∧
      results.length = submissions.length ∧ Course start events world ∧
      world.callers = settled isRunning submissions results ∧ world.current = final := by
  cases isRunning with
  | true =>
    obtain ⟨results, final, later, hRun, hLength, events, hCourse⟩ :=
      (reachable_atRest start submissions).performAll nofun
    exact ⟨events, _, results, final, hRun, hLength, hCourse, rfl, rfl⟩
  | false =>
    obtain ⟨events, hCourse⟩ := reachable_interrupted start submissions
    refine ⟨events, _, _, start, rfl, List.length_map .., hCourse, ?_, rfl⟩
    rw [settled, List.zipWith_map_right, List.zipWith_self]

/-- What a caller is told that calls alone is what it gets in a course. -/
theorem call_course (submission : Submission σ α) (start : σ) :
    ∃ events world result final,
      (call submission start).run (fun _ state => state) = (result, final) ∧
      Course start events world ∧
      world.callers = [submission.caller (.returned result)] ∧ world.current = final := by
  let turn : Turn σ α := { before := [], submission, line := [], queue := [] }
  have hTurn : Reachable start
      (Turn.world { turn with queue := [0] } start 0 (.waiting 0) .idle) :=
    reachable_atRest start [submission]
  have hAdmit (progress : Progress α) (worker : Worker σ Wait.Reply α)
      (hMoment : Reachable start (turn.world start 0 progress worker)) :
      Reachable start (turn.world start 0 progress worker) := hMoment
  obtain ⟨result, final, elapsed, hRun, events, hCourse⟩ := hTurn.perform (Nat.le_refl 0) hAdmit
  have hCall := run_timed (fun _ state => state) (call submission start) 0
  rw [call, hRun] at hCall
  exact ⟨events, _, result, final, hCall.symm, hCourse, rfl, rfl⟩

end Executor

end BeanBridge
