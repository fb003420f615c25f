import BeanBridge.Proofs.Executor.Serial

/-! Each caller gets the outcome of its own job.  While there is a worker, the job of a caller who
waits is in the queue or in the worker's hands; so nobody is ever left without an answer, and what a
call returns is what its job came to or tells that its deadline has passed. -/

namespace BeanBridge.Executor

variable {σ α Q : Type} {R : Q → Type}

/-- The job of a caller came to an outcome: the worker began it on what the jobs before had left, and
had it in hand with this outcome when it ended it. -/
def CameTo (moments : List (World σ R α × Event)) (i : Nat) (caller : Caller σ R α)
    (outcome : Outcome (Except Failure α)) : Prop :=
  ∃ before after opening closing final, moments = before ++ (closing, .finish i) :: after ∧
    (opening, .start i) ∈ before ∧ closing.work = some ⟨i, .done final outcome⟩ ∧
    (caller.job opening.state).Reaches (.done final outcome)

/-- The deadline of a caller passed after its job had entered the queue, and the job had come to no
outcome by then. -/
def RanOut (moments : List (World σ R α × Event)) (i : Nat) (timeout : Int64) : Prop :=
  0 < timeout.toInt ∧
    ∃ before after entering expiring, moments = before ++ (expiring, .expire i) :: after ∧
      .finish i ∉ before.map Prod.snd ∧ (entering, .enter i) ∈ before ∧
      entering.now + timeout.toInt.toNat ≤ expiring.now

/-- What a caller is to get: what its job came to, whether that is a value, a failure or a crash, or
word that its deadline has passed. -/
inductive Due (moments : List (World σ R α × Event)) (i : Nat) (caller : Caller σ R α) :
    Except Failure α → Prop where
  | value {result : Except Failure α} : CameTo moments i caller (.value result) →
      Due moments i caller result
  | crash {message : Option String} : CameTo moments i caller (.crash message) →
      Due moments i caller (.error (.operation
        ("failed to execute operation, error: " ++ message.getD "unknown panic") "" ""))
  | late : RanOut moments i caller.timeout →
      Due moments i caller (.error (.operation
        ("request timeout exceeded: " ++ toString caller.timeout.toInt ++ "ms") "" ""))

/-- Several steps, one after another. -/
inductive Steps : World σ R α → List Event → World σ R α → Prop where
  | nil (world : World σ R α) : Steps world [] world
  | cons {world middle next : World σ R α} {event : Event} {events : List Event} :
      Step world event middle → Steps middle events next → Steps world (event :: events) next

/-- Whose job the worker has something done with. -/
def Event.worker? : Event → Option Nat
  | take i | skip i | keep i | look i | cancel i | start i | resume i | suspend i | finish i => some i
  | _ => none

section

variable {world next : World σ R α} {start : σ} {moments : List (World σ R α × Event)}
  {events : List Event} {event : Event} {i : Nat} {caller : Caller σ R α}

/-! ### The worker -/

theorem Step.isRunning (h : Step world event next) (hEvent : event ≠ .stop) :
    next.isRunning = world.isRunning := by
  cases h with
  | stop => exact absurd rfl hEvent
  | _ => rfl

theorem Course.isRunning (h : Course start events world) (hEvents : .stop ∉ events) :
    world.isRunning := by
  induction h with
  | begin => rfl
  | step h hStep ih =>
    rw [List.mem_append, not_or, List.mem_singleton] at hEvents
    rw [hStep.isRunning fun hStop => hEvents.2 hStop.symm]
    exact ih hEvents.1

/-- The worker lets go of a job only at its end, or when its token is cancelled. -/
theorem Step.holds (h : Step world event next) (hEvent : event ≠ .stop) (hFinish : event ≠ .finish i)
    (hToken : world.isCancelled i = false) (hHolds : world.Holds i) : next.Holds i := by
  have hDropped {j : Nat} (hCaller : world.worker.caller? = some j)
      (hCancelled : world.isCancelled j = true) : i ∈ world.queue := by
    refine hHolds.resolve_right fun hOwn => ?_
    obtain rfl := Option.some.inj (hCaller.symm.trans hOwn)
    rw [hToken] at hCancelled
    nomatch hCancelled
  cases h with
  | stop => exact absurd rfl hEvent
  | enter => exact hHolds.imp_left (List.mem_append_left _)
  | take _ hIdle hQueue =>
    rcases hHolds with hWaits | hOwn
    · rw [hQueue] at hWaits
      rcases List.mem_cons.mp hWaits with rfl | hWaits
      · exact .inr rfl
      · exact .inl hWaits
    · rw [hIdle] at hOwn
      nomatch hOwn
  | skip hWorker hCancelled | cancel hWorker hCancelled =>
    exact .inl (hDropped (by rw [hWorker]; rfl) hCancelled)
  | finish hWorker =>
    refine .inl (hHolds.resolve_right fun hOwn => ?_)
    rw [hWorker] at hOwn
    obtain rfl := Option.some.inj hOwn
    exact hFinish rfl
  | keep hWorker _ | look hWorker _ | start hWorker _ | resume _ hWorker | suspend hWorker =>
    refine hHolds.imp_right fun hOwn => ?_
    rw [hWorker] at hOwn
    exact hOwn
  | call | returnOutcome | expire | interrupt | goAway | passTime => exact hHolds

/-- While there is a worker, nobody waits for a job that is lost. -/
theorem Course.holds (h : Course start events world) (hEvents : .stop ∉ events) {since : Nat}
    (hCaller : world.callers[i]? = some caller) (hWaiting : caller.progress = .waiting since) :
    world.Holds i := by
  induction h generalizing caller since with
  | begin => nomatch hCaller
  | @step events event world next h hStep ih =>
    rw [List.mem_append, not_or, List.mem_singleton] at hEvents
    obtain ⟨-, -, hOutside, -⟩ | ⟨earlier, hEarlier, hPassage⟩ :=
      hStep.called_or_passage hCaller
    · rw [hOutside] at hWaiting
      nomatch hWaiting
    · cases hPassage with
      | stay hMoved =>
        have hToken : world.isCancelled i = false := by
          rw [World.isCancelled_of_get hEarlier, Bool.eq_false_iff]
          intro hCancelled
          exact Passage.not_isOver hWaiting rfl (h.isOver_of_isCancelled hEarlier hCancelled)
        refine hStep.holds (fun hStop => hEvents.2 hStop.symm) ?_ hToken
          (ih hEvents.1 hEarlier hWaiting)
        rintro rfl
        exact hMoved rfl
      | enter _ =>
        cases hStep
        exact .inl (List.mem_append_right _ List.mem_cons_self)
      | lose _ hNot => exact absurd hWaiting (hNot since)
      | _ => nomatch hWaiting

/-- While there is a worker, no call can return for want of one. -/
theorem Course.not_interrupt (h : Course start events world) (hEvents : .stop ∉ events) :
    ¬Step world (.interrupt i) next := by
  intro hStep
  cases hStep with
  | interrupt hCaller hGone =>
    rcases hGone with ⟨-, hStopped⟩ | ⟨since, hWaiting, hLost⟩
    · exact hStopped (h.isRunning hEvents)
    · exact hLost (h.holds hEvents hCaller hWaiting)

theorem Course.interrupt_not_mem (h : Course start events world) (hEvents : .stop ∉ events) :
    .interrupt i ∉ events := by
  induction h with
  | begin => exact List.not_mem_nil
  | step h hStep ih =>
    rw [List.mem_append, not_or, List.mem_singleton] at hEvents ⊢
    exact ⟨ih hEvents.1, fun hNow => h.not_interrupt hEvents.1 (hNow ▸ hStep)⟩

/-- Whoever's job the worker has has called. -/
theorem Course.exists_of_caller? (h : Course start events world)
    (hWorker : world.worker.caller? = some i) :
    ∃ caller, world.callers[i]? = some caller ∧ caller.progress ≠ .outside :=
  h.inside_of_entered (h.taken_sublist_entered.subset (h.mem_taken hWorker))

/-! ### Jobs -/

/-- Whoever's job the worker has has called. -/
theorem Course.exists_of_work (h : Course start events world) {work : Work σ R α}
    (hWork : world.work = some work) : ∃ caller, world.callers[work.caller]? = some caller := by
  obtain ⟨shifts, hRow, -⟩ := h.exists_row
  obtain ⟨earlier, found, rfl⟩ := hRow.last work hWork
  obtain ⟨caller, hCaller, -⟩ := hRow.reached _ (List.mem_append_right _ List.mem_cons_self)
  exact ⟨caller, hCaller⟩

/-- What is left of the job that the worker has was reached from its beginning. -/
theorem Chronicle.begun (h : Chronicle start moments world)
    {rest : Dialogue σ R (Outcome (Except Failure α))} (hWork : world.work = some ⟨i, rest⟩)
    (hCaller : world.callers[i]? = some caller) :
    ∃ opening, (opening, .start i) ∈ moments ∧ (caller.job opening.state).Reaches rest := by
  -- The work is what it was, is begun now, or is one answer further.
  induction h generalizing rest caller with
  | begin => nomatch hWork
  | @step moments event world next h hStep ih =>
    have hKnown {earlier : Caller σ R α} (hEarlier : world.callers[i]? = some earlier) :
        caller.job = earlier.job := by
      obtain ⟨later, hLater, hJob⟩ := hStep.job hEarlier
      obtain rfl := Option.some.inj (hLater.symm.trans hCaller)
      exact hJob
    rcases hStep.work_cases with ⟨-, -, hKept⟩ | ⟨j, earlier, rfl, -, hEarlier, hBegun⟩ |
      ⟨j, state, question, resume, reply, rfl, hBefore, hAfter⟩
    · obtain ⟨earlier, hEarlier⟩ := h.course.exists_of_work (hKept _ hWork)
      obtain ⟨opening, hOpening, hRest⟩ := ih (hKept _ hWork) hEarlier
      exact ⟨opening, List.mem_append_left _ hOpening, hKnown hEarlier ▸ hRest⟩
    · obtain ⟨rfl, rfl⟩ := Work.mk.inj (Option.some.inj (hBegun.symm.trans hWork))
      refine ⟨world, List.mem_append_right _ List.mem_cons_self, ?_⟩
      rw [hKnown hEarlier]
      exact .refl _
    · obtain ⟨rfl, rfl⟩ := Work.mk.inj (Option.some.inj (hAfter.symm.trans hWork))
      obtain ⟨earlier, hEarlier⟩ := h.course.exists_of_work hBefore
      obtain ⟨opening, hOpening, hRest⟩ := ih hBefore hEarlier
      exact ⟨opening, List.mem_append_left _ hOpening, hKnown hEarlier ▸ hRest.answer reply⟩

/-- The caller of a job that came to an end is served, or its call is over. -/
theorem Course.progress_of_finish (h : Course start events world) (hFinish : .finish i ∈ events) :
    ∃ caller, world.callers[i]? = some caller ∧
      ((∃ outcome, caller.progress = .served outcome) ∨ caller.progress.isOver) := by
  induction h with
  | begin => nomatch hFinish
  | @step events event world next h hStep ih =>
    rcases List.mem_append.mp hFinish with hEarlier | hNow
    · obtain ⟨caller, hCaller, hServed⟩ := ih hEarlier
      obtain ⟨later, hNext, hPassage⟩ := hStep.passage hCaller
      have hInside : caller.progress ≠ .outside := by
        intro hOutside
        rw [hOutside] at hServed
        simp [Progress.isOver] at hServed
      refine ⟨later, hNext, ?_⟩
      rcases hPassage.served_or_over hInside with hSame | hLater
      · rwa [hSame]
      · exact hLater
    · obtain rfl := List.mem_singleton.mp hNow
      cases hStep with
      | finish hWorker =>
        obtain ⟨caller, hCaller, hInside⟩ := h.exists_of_caller? (by rw [hWorker]; rfl)
        refine ⟨_, World.get_update_self hCaller _, ?_⟩
        rw [Caller.serve]
        cases hProgress : caller.progress with
        | outside => exact absurd hProgress hInside
        | waiting since => exact .inl ⟨_, rfl⟩
        | served outcome => exact .inl ⟨outcome, hProgress⟩
        | returned result => exact .inr (by simp only [hProgress]; rfl)
        | abandoned => exact .inr (by simp only [hProgress]; rfl)

/-- The job of a caller who waits did not come to an end. -/
theorem Course.unfinished_of_waiting (h : Course start events world) {since : Nat}
    (hCaller : world.callers[i]? = some caller) (hWaiting : caller.progress = .waiting since) :
    .finish i ∉ events := by
  intro hFinish
  obtain ⟨found, hFound, hServed⟩ := h.progress_of_finish hFinish
  obtain rfl := Option.some.inj (hFound.symm.trans hCaller)
  rw [hWaiting] at hServed
  rcases hServed with ⟨outcome, hServed⟩ | hOver
  · nomatch hServed
  · nomatch hOver

/-! ### Answers -/

theorem CameTo.append {later : Caller σ R α} {outcome : Outcome (Except Failure α)}
    (h : CameTo moments i caller outcome) (hJob : later.job = caller.job)
    (more : List (World σ R α × Event)) : CameTo (moments ++ more) i later outcome := by
  obtain ⟨before, after, opening, closing, final, rfl, hOpening, hClosing, hReaches⟩ := h
  refine ⟨before, after ++ more, opening, closing, final, ?_, hOpening, hClosing, hJob ▸ hReaches⟩
  rw [List.append_assoc, List.cons_append]

theorem RanOut.append {timeout : Int64} (h : RanOut moments i timeout)
    (more : List (World σ R α × Event)) : RanOut (moments ++ more) i timeout := by
  obtain ⟨hPositive, before, after, entering, expiring, rfl, hFinish, hEntering, hPassed⟩ := h
  refine ⟨hPositive, before, after ++ more, entering, expiring, ?_, hFinish, hEntering, hPassed⟩
  rw [List.append_assoc, List.cons_append]

/-- What was due to a caller is due from then on. -/
theorem Due.append {later : Caller σ R α} {result : Except Failure α}
    (h : Due moments i caller result) (hJob : later.job = caller.job)
    (hTimeout : later.timeout = caller.timeout) (more : List (World σ R α × Event)) :
    Due (moments ++ more) i later result := by
  cases h with
  | value hCame => exact .value (hCame.append hJob more)
  | crash hCame => exact .crash (hCame.append hJob more)
  | late hOut =>
    rw [← hTimeout] at hOut ⊢
    exact .late (hOut.append more)

/-- What is delivered of an outcome is due. -/
theorem CameTo.due {outcome : Outcome (Except Failure α)} (h : CameTo moments i caller outcome) :
    Due moments i caller (delivered outcome) := by
  cases outcome with
  | value result => exact .value h
  | crash message => exact .crash h

/-- A caller who is served has what its job came to. -/
theorem Chronicle.came_to_of_served (h : Chronicle start moments world)
    {outcome : Outcome (Except Failure α)} (hCaller : world.callers[i]? = some caller)
    (hServed : caller.progress = .served outcome) : CameTo moments i caller outcome := by
  induction h generalizing caller outcome with
  | begin => nomatch hCaller
  | @step moments event world next h hStep ih =>
    obtain ⟨-, -, hOutside, -⟩ | ⟨earlier, hEarlier, hPassage⟩ :=
      hStep.called_or_passage hCaller
    · rw [hOutside] at hServed
      nomatch hServed
    · cases hPassage with
      | stay _ | lose _ _ => exact (ih hEarlier hServed).append rfl _
      | @finish since final found hWorker _ =>
        obtain rfl : found = outcome := Progress.served.inj hServed
        have hWork : world.work = some ⟨i, .done final found⟩ := by
          rw [World.work, hWorker]
          rfl
        obtain ⟨opening, hOpening, hReaches⟩ := h.begun hWork hEarlier
        exact ⟨moments, [], opening, world, final, rfl, hOpening, hWork, hReaches⟩
      | _ => cases hServed

theorem Chronicle.ran_out_of_expire (h : Chronicle start moments world) {since : Nat}
    (hCaller : world.callers[i]? = some caller) (hWaiting : caller.progress = .waiting since)
    (hPositive : 0 < caller.timeout.toInt)
    (hPassed : since + caller.timeout.toInt.toNat ≤ world.now) :
    RanOut (moments ++ [(world, .expire i)]) i caller.timeout := by
  obtain ⟨entering, hEntering, rfl⟩ := h.enter_of_waiting hCaller hWaiting
  have hUnfinished := h.course.unfinished_of_waiting hCaller hWaiting
  exact ⟨hPositive, moments, [], entering, world, rfl, hUnfinished, hEntering, hPassed⟩

theorem Chronicle.due_of_returned (h : Chronicle start moments world)
    (hEvents : .stop ∉ moments.map Prod.snd) {result : Except Failure α}
    (hCaller : world.callers[i]? = some caller) (hReturned : caller.progress = .returned result) :
    Due moments i caller result := by
  induction h generalizing caller result with
  | begin => nomatch hCaller
  | @step moments event world next h hStep ih =>
    rw [List.map_append, List.mem_append, not_or] at hEvents
    obtain ⟨-, -, hOutside, -⟩ | ⟨earlier, hEarlier, hPassage⟩ :=
      hStep.called_or_passage hCaller
    · rw [hOutside] at hReturned
      nomatch hReturned
    · -- Of the three passages that end in a return, the interruption needs a lost job.
      cases hPassage with
      | stay _ | lose _ _ => exact (ih hEvents.1 hEarlier hReturned).append rfl rfl _
      | returnOutcome hServed =>
        obtain rfl := Progress.returned.inj hReturned
        have hCame := h.came_to_of_served hEarlier hServed
        exact CameTo.due (hCame.append rfl _)
      | expire hWaiting hPositive hPassed =>
        obtain rfl := Progress.returned.inj hReturned
        have hOut := h.ran_out_of_expire hEarlier hWaiting hPositive hPassed
        exact .late hOut
      | interrupt _ => exact absurd hStep (h.course.not_interrupt hEvents.1)
      | _ => nomatch hReturned

/-- The failure of a call that nobody answers can only be one that the job itself came to. -/
theorem Due.came_to_interrupted
    (h : Due moments i caller (.error (.operation "request was interrupted" "" ""))) :
    CameTo moments i caller (.value (.error (.operation "request was interrupted" "" ""))) := by
  have hStart {front back : String}
      (hText : "request was interrupted" = front ++ back) :
      "request was interrupted".toList = front.toList ++ back.toList := by
    rw [hText, String.toList_append]
  generalize hResult : (Except.error _ : Except Failure α) = result at h
  -- The other two texts begin otherwise.
  cases h with
  | value hCame => exact hResult ▸ hCame
  | @crash message _ =>
    have hText := (Failure.operation.inj (Except.error.inj hResult)).1
    exact absurd (hStart hText) (by simp)
  | late _ =>
    have hText := (Failure.operation.inj (Except.error.inj hResult)).1
    rw [String.append_assoc] at hText
    exact absurd (hStart hText) (by simp)

/-- The worker is done with the job of a caller in some steps that it can take, and leaves the queue as
it is. -/
def World.PutsDown (world : World σ R α) (i : Nat) : Prop :=
  ∃ events, ∃ next : World σ R α, (∀ event ∈ events, event.worker? = some i) ∧
    Steps world events next ∧ next.worker = .idle ∧ next.queue = world.queue

theorem World.PutsDown.of_step (hStep : Step world event next) (hEvent : event.worker? = some i)
    (hQueue : next.queue = world.queue) (h : next.PutsDown i) : world.PutsDown i := by
  obtain ⟨events, last, hEvents, hSteps, hIdle, hKept⟩ := h
  exact ⟨event :: events, last, List.forall_mem_cons.mpr ⟨hEvent, hEvents⟩, .cons hStep hSteps, hIdle,
    hKept.trans hQueue⟩

theorem World.PutsDown.of_idle (h : world.worker = .idle) (i : Nat) : world.PutsDown i :=
  ⟨[], world, nofun, .nil world, h, rfl⟩

theorem World.puts_down_of_cancelled {rest : Option (Dialogue σ R (Outcome (Except Failure α)))}
    (hWorker : world.worker = .keeping i rest) (hCancelled : world.isCancelled i = true) :
    world.PutsDown i :=
  .of_step (.cancel hWorker hCancelled) rfl rfl (.of_idle rfl i)

theorem World.puts_down_of_done {final : σ} {outcome : Outcome (Except Failure α)}
    (hWorker : world.worker = .polling i (some (.done final outcome))) : world.PutsDown i :=
  .of_step (.finish hWorker) rfl rfl (.of_idle rfl i)

theorem World.puts_down_of_polling {rest : Dialogue σ R (Outcome (Except Failure α))}
    (hWorker : world.worker = .polling i (some rest)) (hCancelled : world.isCancelled i = true) :
    world.PutsDown i := by
  cases rest with
  | done final outcome => exact puts_down_of_done hWorker
  | ask state question resume =>
    exact .of_step (.suspend hWorker) rfl rfl (puts_down_of_cancelled rfl hCancelled)

/-- The worker puts a job down that came to an end, or whose call is over. -/
theorem Course.puts_down (h : Course start events world) (hWorker : world.worker.caller? = some i)
    (hReady : (∃ final outcome, world.work = some ⟨i, .done final outcome⟩) ∨
      (world.progress i).isOver) : world.PutsDown i := by
  obtain ⟨caller, hCaller, -⟩ := h.exists_of_caller? hWorker
  have hCancelled (hOver : (world.progress i).isOver) : world.isCancelled i = true := by
    have hEntered := h.taken_sublist_entered.subset (h.mem_taken hWorker)
    rw [World.progress_of_get hCaller] at hOver
    rw [World.isCancelled_of_get hCaller, h.isCancelled_of_isOver hEntered hCaller hOver]
  have hOwn {worker : Worker σ R α} {j : Nat} (hState : world.worker = worker)
      (hCaller : worker.caller? = some j) : j = i := by
    rw [hState, hCaller] at hWorker
    exact Option.some.inj hWorker
  have hOverOf (hUnbegun : world.work = none) : (world.progress i).isOver := by
    refine hReady.resolve_left ?_
    rintro ⟨final, outcome, hDone⟩
    exact absurd (hDone.symm.trans hUnbegun) (Option.some_ne_none _)
  cases hState : world.worker with
  | idle =>
    rw [hState] at hWorker
    exact absurd hWorker.symm (Option.some_ne_none i)
  | taken j =>
    obtain rfl := hOwn hState rfl
    have hOver := hOverOf (by rw [World.work, hState]; rfl)
    exact .of_step (.skip hState (hCancelled hOver)) rfl rfl (.of_idle rfl j)
  | keeping j rest =>
    obtain rfl := hOwn hState rfl
    cases hToken : world.isCancelled j with
    | true => exact World.puts_down_of_cancelled hState hToken
    | false =>
      obtain ⟨final, outcome, hDone⟩ := hReady.resolve_right fun hOver =>
        Bool.false_ne_true (hToken.symm.trans (hCancelled hOver))
      have hLooked : ({ world with worker := .polling j rest } : World σ R α).worker =
          .polling j (some (.done final outcome)) := by
        rw [World.work, hState] at hDone
        cases rest with
        | none => exact absurd hDone.symm (Option.some_ne_none _)
        | some rest =>
          obtain ⟨-, rfl⟩ := Work.mk.inj (Option.some.inj hDone)
          rfl
      exact .of_step (.look hState hToken) rfl rfl (World.puts_down_of_done hLooked)
  | polling j rest =>
    obtain rfl := hOwn hState rfl
    cases rest with
    | none =>
      have hOver := hOverOf (by rw [World.work, hState]; rfl)
      exact .of_step (.start hState hCaller) rfl rfl
        (World.puts_down_of_polling rfl (hCancelled hOver))
    | some rest =>
      rw [World.work, hState] at hReady
      rcases hReady with ⟨final, outcome, hDone⟩ | hOver
      · obtain ⟨-, rfl⟩ := Work.mk.inj (Option.some.inj hDone)
        exact World.puts_down_of_done hState
      · exact World.puts_down_of_polling hState (hCancelled hOver)

/-- A worker without a job takes the next one from the queue, and drops it or begins it. -/
theorem Course.takes (h : Course start events world) (hRunning : world.isRunning)
    (hIdle : world.worker = .idle) {queue : List Nat} (hQueue : world.queue = i :: queue) :
    ∃ events, ∃ next : World σ R α,
      (events = [.take i, .keep i, .look i, .start i] ∨ events = [.take i, .skip i]) ∧
        Steps world events next ∧ next.queue = queue := by
  have hTake := Step.take hRunning hIdle hQueue
  obtain ⟨caller, hCaller, -⟩ := (h.step hTake).exists_of_caller? rfl
  cases hToken : world.isCancelled i with
  | true => exact ⟨_, _, .inr rfl, .cons hTake (.cons (.skip rfl hToken) (.nil _)), rfl⟩
  | false =>
    exact ⟨_, _, .inl rfl, .cons hTake (.cons (.keep rfl hToken) (.cons (.look rfl hToken)
      (.cons (.start rfl hCaller) (.nil _)))), rfl⟩

end

/-- Callers are answered each for its own job. -/
structure Answered (moments : List (World σ R α × Event)) (world : World σ R α) : Prop where
  due : ∀ i caller result, world.callers[i]? = some caller →
    caller.progress = .returned result → Due moments i caller result
  /-- No call returns for want of an answer, now or ever before. -/
  uninterrupted : ∀ i, .interrupt i ∉ moments.map Prod.snd ∧
    ∀ next, ¬Step world (.interrupt i) next
  /-- What tells of an interruption was made up by the job itself. -/
  genuine : ∀ i caller, world.callers[i]? = some caller →
    caller.progress = .returned (.error Fault.interrupted.failure) →
      CameTo moments i caller (.value (.error Fault.interrupted.failure))
  /-- The worker is there, whatever jobs came to. -/
  isRunning : world.isRunning
  putsDown : ∀ i, world.worker.caller? = some i →
    (∃ final outcome, world.work = some ⟨i, .done final outcome⟩) ∨ (world.progress i).isOver →
      world.PutsDown i
  takes : world.worker = .idle → ∀ i queue, world.queue = i :: queue → ∃ events next,
    (events = [.take i, .keep i, .look i, .start i] ∨ events = [.take i, .skip i]) ∧
      Steps world events next ∧ next.queue = queue

/-- While there is a worker, each call returns what its own job came to, or that its deadline has
passed; and whatever a job comes to, the worker puts it down and takes the next. -/
theorem callers_get_own_outcomes {start : σ} {moments : List (World σ R α × Event)}
    {world : World σ R α} (h : Chronicle start moments world)
    (hEvents : .stop ∉ moments.map Prod.snd) : Answered moments world where
  due _ _ _ := h.due_of_returned hEvents
  uninterrupted _ :=
    ⟨h.course.interrupt_not_mem hEvents, fun _ => h.course.not_interrupt hEvents⟩
  genuine _ _ hCaller hReturned := (h.due_of_returned hEvents hCaller hReturned).came_to_interrupted
  isRunning := h.course.isRunning hEvents
  putsDown _ := h.course.puts_down
  takes hIdle _ _ := h.course.takes (h.course.isRunning hEvents) hIdle

/-- One job comes to a value and one breaks down, and a third comes to nothing before its caller gives
it up. -/
theorem callers_get_own_outcomes_value_crash_and_deadline :
    ∃ world : World Nat (fun _ : Unit => Unit) Nat, ∃ moments, Chronicle 4 moments world ∧
      .stop ∉ moments.map Prod.snd ∧ world.progress 0 = .returned (.ok 5) ∧
      world.progress 1 = .returned (.error (Fault.crashed "kaboom").failure) ∧
      world.progress 2 = .returned (.error (Fault.timedOut 100).failure) ∧
      Answered moments world := by
  let quick : Action Nat (fun _ : Unit => Unit) (Outcome (Except Failure Nat)) :=
    fun state => .done (state + 1) (.value (.ok (state + 1)))
  let broken : Action Nat (fun _ : Unit => Unit) (Outcome (Except Failure Nat)) :=
    fun state => .done state (.crash "kaboom")
  let endless : Action Nat (fun _ : Unit => Unit) (Outcome (Except Failure Nat)) :=
    fun state => .ask state () fun _ state => .done state (.value (.ok state))
  let moment (state now : Nat) (first second third : Progress Nat) (queue : List Nat)
      (worker : Worker Nat (fun _ : Unit => Unit) Nat) :
      World Nat (fun _ : Unit => Unit) Nat :=
    { state, now, queue, worker
      callers := [⟨0, quick, 0, first, first.isOver⟩, ⟨0, broken, 0, second, second.isOver⟩,
        ⟨100, endless, 0, third, third.isOver⟩] }
  have hCalled : Chronicle 4 _ (moment 4 0 .outside .outside .outside [] .idle) :=
    ((Chronicle.begin.step (.call _ 0 quick)).step (.call _ 0 broken)).step (.call _ 100 endless)
  have hEntered : Chronicle 4 _ (moment 4 0 (.waiting 0) (.waiting 0) (.waiting 0) [0, 1, 2] .idle) :=
    ((hCalled.step (.enter (i := 0) rfl rfl rfl (by decide))).step
      (.enter (i := 1) rfl rfl rfl (by decide))).step (.enter (i := 2) rfl rfl rfl (by decide))
  have hQuick := ((((hEntered.step (.take rfl rfl rfl)).step (.keep rfl rfl)).step
    (.look rfl rfl)).step (.start (i := 0) rfl rfl)).step (.finish rfl)
  have hBroken := ((((hQuick.step (.take rfl rfl rfl)).step (.keep rfl rfl)).step
    (.look rfl rfl)).step (.start (i := 1) rfl rfl)).step (.finish rfl)
  have hBegun := (((hBroken.step (.take rfl rfl rfl)).step (.keep rfl rfl)).step
    (.look rfl rfl)).step (.start (i := 2) rfl rfl)
  have hReturned := (((hBegun.step (.suspend rfl)).step (.returnOutcome (i := 0) rfl rfl)).step
    (.returnOutcome (i := 1) rfl rfl)).step (.passTime _ 100)
  have hExpired := (hReturned.step (.expire (i := 2) rfl rfl (by decide) (by decide))).step
    (.cancel rfl rfl)
  exact ⟨_, _, hExpired, by decide, rfl, rfl, rfl, callers_get_own_outcomes hExpired (by decide)⟩

end BeanBridge.Executor
