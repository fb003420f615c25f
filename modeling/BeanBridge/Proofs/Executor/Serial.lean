import BeanBridge.Proofs.Executor.Passage

/-! The worker does jobs one after another.  In every course of callers and worker the jobs that are
begun form a row: each of them finds the state as the one before it left it, and nothing else touches
the state in the meantime.  When a call is over, its token is cancelled, and so no poll of its job
follows but the one for which the worker has looked at the token before. -/

namespace BeanBridge

/-- A part of a dialogue that is left after some answers, with the state at each question as the
dialogue had left it there. -/
inductive Dialogue.Reaches {σ Q α : Type} {R : Q → Type} :
    Dialogue σ R α → Dialogue σ R α → Prop where
  | refl (dialogue : Dialogue σ R α) : Reaches dialogue dialogue
  | answer {dialogue : Dialogue σ R α} {state : σ} {question : Q}
      {resume : R question → σ → Dialogue σ R α} (reply : R question) :
      Reaches dialogue (.ask state question resume) → Reaches dialogue (resume reply state)

namespace Executor

variable {σ α Q : Type} {R : Q → Type}

namespace Event

def entered? : Event → Option Nat
  | enter i => some i
  | _ => none

def taken? : Event → Option Nat
  | take i => some i
  | _ => none

def started? : Event → Option Nat
  | start i => some i
  | _ => none

/-- Whose jobs are begun and not yet put down, after an event. -/
def underway (jobs : List Nat) : Event → List Nat
  | start i => i :: jobs
  | finish i | cancel i => jobs.erase i
  | stop => []
  | _ => jobs

/-- Whose job is being polled, after an event. -/
def polled (job : Option Nat) : Event → Option Nat
  | look i => some i
  | suspend _ | finish _ | stop => none
  | _ => job

end Event

/-- Whose jobs have entered the queue, in this order. -/
def entered (events : List Event) : List Nat := events.filterMap Event.entered?

/-- Whose jobs the worker has taken from the queue, in this order. -/
def taken (events : List Event) : List Nat := events.filterMap Event.taken?

/-- Whose jobs the worker has begun, in this order. -/
def started (events : List Event) : List Nat := events.filterMap Event.started?

def underway (events : List Event) : List Nat := events.foldl Event.underway []

/-- Whose job is being polled after events: the worker has looked at its token, and the poll has not
ended since. -/
def polled (events : List Event) : Option Nat := events.foldl Event.polled none

theorem filterMap_concat {β γ : Type} (f : β → Option γ) (values : List β) (value : β) :
    (values ++ [value]).filterMap f = values.filterMap f ++ (f value).toList := by
  rw [List.filterMap_append]
  cases hValue : f value <;> simp [hValue]

section queue

variable {world next : World σ R α} {start : σ} {events : List Event} {i : Nat}

/-- The jobs that entered the queue were taken from it in the same order, are still in it, or were
lost with the worker. -/
theorem Course.entered_eq (h : Course start events world) :
    ∃ lost, entered events = taken events ++ world.queue ++ lost ∧ (world.isRunning → lost = []) := by
  induction h with
  | begin => exact ⟨[], rfl, fun _ => rfl⟩
  | @step events event world next h hStep ih =>
    obtain ⟨lost, hEntered, hLost⟩ := ih
    rw [entered, taken, filterMap_concat, filterMap_concat, ← entered, ← taken, hEntered]
    -- Only a stop loses jobs, and without a worker none enters or is taken afterwards.
    cases hStep with
    | enter hRunning _ _ _ =>
      obtain rfl := hLost hRunning
      exact ⟨[], by simp [Event.entered?, Event.taken?, World.enter], fun _ => rfl⟩
    | take hRunning _ hQueue =>
      obtain rfl := hLost hRunning
      exact ⟨[], by simp [Event.entered?, Event.taken?, hQueue], fun _ => rfl⟩
    | stop hRunning =>
      refine ⟨world.queue ++ lost, ?_, nofun⟩
      simp [Event.entered?, Event.taken?]
    | _ =>
      refine ⟨lost, ?_, hLost⟩
      simp [Event.entered?, Event.taken?, World.call, World.update, World.leave]

/-- Who has entered the queue has called, and is not outside any more. -/
theorem Course.inside_of_entered (h : Course start events world) (hEntered : i ∈ entered events) :
    ∃ caller, world.callers[i]? = some caller ∧ caller.progress ≠ .outside := by
  induction h with
  | begin => nomatch hEntered
  | @step events event world next h hStep ih =>
    rw [entered, filterMap_concat, List.mem_append] at hEntered
    rcases hEntered with hEarlier | hNow
    · obtain ⟨caller, hCaller, hInside⟩ := ih hEarlier
      obtain ⟨later, hLater, hPassage⟩ := hStep.passage hCaller
      exact ⟨later, hLater, hPassage.inside hInside⟩
    · cases hStep with
      | enter _ hCaller _ _ =>
        obtain rfl := List.mem_singleton.mp hNow
        exact ⟨_, World.get_update_self hCaller _, nofun⟩
      | _ => nomatch hNow

theorem Course.taken_sublist_entered (h : Course start events world) :
    (taken events).Sublist (entered events) := by
  obtain ⟨lost, hEntered, -⟩ := h.entered_eq
  rw [hEntered, List.append_assoc]
  exact List.sublist_append_left _ _

theorem Step.caller?_cases (h : Step world event next) (hNext : next.worker.caller? = some i) :
    event = .take i ∨ world.worker.caller? = some i := by
  cases h with
  | take => exact .inl (congrArg Event.take (Option.some.inj hNext))
  | keep hWorker _ | look hWorker _ | start hWorker _ | resume _ hWorker | suspend hWorker =>
    rw [hWorker]
    exact .inr hNext
  | skip | cancel | finish | stop => nomatch hNext
  | call | enter | returnOutcome | expire | interrupt | goAway | passTime => exact .inr hNext

/-- The worker has taken the job that it has from the queue. -/
theorem Course.mem_taken (h : Course start events world) (hWorker : world.worker.caller? = some i) :
    i ∈ taken events := by
  induction h with
  | begin => nomatch hWorker
  | @step events event world next h hStep ih =>
    rw [taken, filterMap_concat, List.mem_append]
    rcases hStep.caller?_cases hWorker with rfl | hBefore
    · exact .inr List.mem_cons_self
    · exact .inl (ih hBefore)

end queue

section token

variable {world : World σ R α} {start : σ} {events : List Event} {i : Nat} {caller : Caller σ R α}

/-- A token is cancelled only when the call is over. -/
theorem Course.isOver_of_isCancelled (h : Course start events world)
    (hCaller : world.callers[i]? = some caller) (hCancelled : caller.isCancelled) :
    caller.progress.isOver := by
  induction h generalizing caller with
  | begin => nomatch hCaller
  | step h hStep ih =>
    rcases hStep.called_or_passage hCaller with ⟨-, -, -, hFresh, -⟩ | ⟨earlier, hEarlier, hPassage⟩
    · rw [hFresh] at hCancelled
      nomatch hCancelled
    · exact hPassage.isOver_of_isCancelled (ih hEarlier) hCancelled

/-- When the call is over of a job that has entered the queue, its token is cancelled. -/
theorem Course.isCancelled_of_isOver (h : Course start events world)
    (hEntered : i ∈ entered events) (hCaller : world.callers[i]? = some caller)
    (hOver : caller.progress.isOver) : caller.isCancelled := by
  induction h generalizing caller with
  | begin => nomatch hEntered
  | @step events event world next h hStep ih =>
    rcases hStep.called_or_passage hCaller with ⟨-, -, hOutside, -⟩ | ⟨earlier, hEarlier, hPassage⟩
    · rw [hOutside] at hOver
      nomatch hOver
    · rw [entered, filterMap_concat, List.mem_append] at hEntered
      rcases hEntered with hBefore | hNow
      · obtain ⟨found, hFound, hInside⟩ := h.inside_of_entered hBefore
        obtain rfl := Option.some.inj (hFound.symm.trans hEarlier)
        exact hPassage.isCancelled_of_isOver hInside (ih hBefore hEarlier) hOver
      · cases hStep with
        | enter =>
          obtain rfl := List.mem_singleton.mp hNow
          cases hPassage with
          | stay hMoved => exact absurd rfl hMoved
          | enter _ => nomatch hOver
        | _ => nomatch hNow

end token

/-! ### The worker -/

namespace Worker

/-- Whose job is being polled. -/
def polled : Worker σ R α → Option Nat
  | polling i _ => some i
  | _ => none

end Worker

section worker

variable {world next : World σ R α} {start : σ} {events : List Event} {event : Event} {i : Nat}

theorem Step.underway (h : Step world event next) :
    event.underway (world.work.toList.map Work.caller) = next.work.toList.map Work.caller := by
  cases h with
  | take _ hIdle _ =>
    rw [World.work, hIdle]
    rfl
  | skip hWorker _ | keep hWorker _ | start hWorker _ | resume _ hWorker | suspend hWorker =>
    rw [World.work, hWorker]
    rfl
  | @look i rest hWorker _ =>
    rw [World.work, hWorker]
    cases rest <;> rfl
  | @cancel i rest hWorker _ =>
    rw [World.work, hWorker]
    cases rest with
    | none => rfl
    | some rest => exact List.erase_cons_head i []
  | @finish i _ _ hWorker =>
    rw [World.work, hWorker]
    exact List.erase_cons_head i []
  | call | enter | returnOutcome | expire | interrupt | goAway | passTime | stop => rfl

theorem Step.polled (h : Step world event next) :
    event.polled world.worker.polled = next.worker.polled := by
  cases h with
  | take _ hIdle _ =>
    rw [hIdle]
    rfl
  | skip hWorker _ | keep hWorker _ | cancel hWorker _ | start hWorker _ | resume _ hWorker =>
    rw [hWorker]
    rfl
  | call | enter | look | suspend | finish | returnOutcome | expire | interrupt | goAway
  | passTime | stop => rfl

end worker

/-! ### The row of jobs -/

/-- A job in the hands of the worker: whose it is, in which state it was begun, and what was left of
it when the worker put it down, or is left of it now. -/
structure Shift (σ : Type) (R : Q → Type) (α : Type) where
  caller : Nat
  found : σ
  rest : Dialogue σ R (Outcome (Except Failure α))

/-- The state as the last job has left it. -/
def leftBy (start : σ) (shifts : List (Shift σ R α)) : σ :=
  shifts.foldl (fun _ shift => shift.rest.state) start

/-- Each job finds the state as the one before has left it. -/
def Linked (start : σ) : List (Shift σ R α) → Prop
  | [] => True
  | shift :: shifts => shift.found = start ∧ Linked shift.rest.state shifts

theorem leftBy_append (start : σ) (shifts : List (Shift σ R α)) (shift : Shift σ R α) :
    leftBy start (shifts ++ [shift]) = shift.rest.state := by
  rw [leftBy, List.foldl_append, List.foldl_cons, List.foldl_nil]

theorem linked_append {start : σ} {shifts : List (Shift σ R α)} {shift : Shift σ R α} :
    Linked start (shifts ++ [shift]) ↔ Linked start shifts ∧ shift.found = leftBy start shifts := by
  induction shifts generalizing start with
  | nil => exact and_comm
  | cons first shifts ih =>
    rw [List.cons_append, Linked, Linked, ih, and_assoc]
    rfl

/-- The jobs of a course in a row, up to this moment. -/
structure Row (start : σ) (world : World σ R α) (shifts : List (Shift σ R α)) : Prop where
  /-- What is left of a job was reached from its beginning. -/
  reached : ∀ shift ∈ shifts, ∃ caller, world.callers[shift.caller]? = some caller ∧
    (caller.job shift.found).Reaches shift.rest
  linked : Linked start shifts
  current : world.current = leftBy start shifts
  /-- The job that the worker has is the last one. -/
  last : ∀ work ∈ world.work, ∃ earlier found, shifts = earlier ++ [⟨work.caller, found, work.rest⟩]

section Row

variable {world next : World σ R α} {start : σ} {events : List Event} {event : Event} {i : Nat}
  {shifts : List (Shift σ R α)}

theorem Step.job (h : Step world event next) {caller : Caller σ R α}
    (hCaller : world.callers[i]? = some caller) :
    ∃ later, next.callers[i]? = some later ∧ later.job = caller.job := by
  obtain ⟨later, hLater, hPassage⟩ := h.passage hCaller
  exact ⟨later, hLater, by rw [hPassage.eq]⟩

/-- What a step can do to the job of the worker: nothing but end it, begin one, or go on with it. -/
theorem Step.work_cases (h : Step world event next) :
    (event.started? = none ∧ next.current = world.current ∧
      ∀ work ∈ next.work, work ∈ world.work) ∨
    (∃ i caller, event = .start i ∧ world.work = none ∧ world.callers[i]? = some caller ∧
      next.work = some ⟨i, caller.job world.state⟩) ∨
    ∃ i state question rest, ∃ reply : R question, event = .resume i ∧
      world.work = some ⟨i, .ask state question rest⟩ ∧ next.work = some ⟨i, rest reply state⟩ := by
  have hSame (hNone : event.started? = none) (hState : next.state = world.state)
      (hWork : next.work = world.work) :
      event.started? = none ∧ next.current = world.current ∧
        ∀ work ∈ next.work, work ∈ world.work := by
    rw [World.current, World.current, hWork, hState]
    exact ⟨hNone, rfl, fun _ hWork => hWork⟩
  cases h with
  | start hWorker hCaller =>
    exact .inr (.inl ⟨_, _, rfl, by rw [World.work, hWorker]; rfl, hCaller, rfl⟩)
  | resume reply hWorker =>
    exact .inr (.inr ⟨_, _, _, _, reply, rfl, by rw [World.work, hWorker]; rfl, rfl⟩)
  | finish hWorker =>
    refine .inl ⟨rfl, ?_, nofun⟩
    rw [World.current, World.current, World.work, World.work, hWorker]
    rfl
  | cancel _ _ | stop _ => exact .inl ⟨rfl, rfl, nofun⟩
  | take _ hWorker _ | skip hWorker _ | keep hWorker _ | suspend hWorker =>
    exact .inl (hSame rfl rfl (by rw [World.work, World.work, hWorker]; rfl))
  | @look i rest hWorker _ =>
    exact .inl (hSame rfl rfl (by rw [World.work, World.work, hWorker]; cases rest <;> rfl))
  | call | enter | returnOutcome | expire | interrupt | goAway | passTime =>
    exact .inl (hSame rfl rfl rfl)

theorem Row.step (h : Row start world shifts) (hStep : Step world event next) :
    ∃ later, Row start next later ∧
      later.map Shift.caller = shifts.map Shift.caller ++ event.started?.toList := by
  have hReached : ∀ shift ∈ shifts, ∃ caller, next.callers[shift.caller]? = some caller ∧
      (caller.job shift.found).Reaches shift.rest := by
    intro shift hShift
    obtain ⟨caller, hCaller, hRest⟩ := h.reached shift hShift
    obtain ⟨later, hLater, hJob⟩ := hStep.job hCaller
    exact ⟨later, hLater, hJob ▸ hRest⟩
  -- A beginning adds a shift, an answer brings the last one further, and all else leaves the row.
  rcases hStep.work_cases with ⟨hEvent, hCurrent, hWork⟩ | ⟨i, caller, rfl, hIdle, hCaller, hWork⟩ |
    ⟨i, state, question, rest, reply, rfl, hBefore, hWork⟩
  · refine ⟨shifts, ⟨hReached, h.linked, hCurrent.trans h.current, ?_⟩, ?_⟩
    · exact fun work hNext => h.last work (hWork work hNext)
    · rw [hEvent, Option.toList_none, List.append_nil]
  · have hState : world.state = leftBy start shifts := by
      rw [← h.current, World.current, hIdle]
    let shift : Shift σ R α := ⟨i, world.state, caller.job world.state⟩
    refine ⟨shifts ++ [shift], ⟨?_, linked_append.mpr ⟨h.linked, hState⟩, ?_, ?_⟩, ?_⟩
    · refine List.forall_mem_append.mpr ⟨hReached, List.forall_mem_singleton.mpr ?_⟩
      obtain ⟨later, hLater, hJob⟩ := hStep.job hCaller
      exact ⟨later, hLater, hJob ▸ .refl _⟩
    · rw [leftBy_append, World.current, hWork]
    · rintro work hNext
      obtain rfl := Option.some.inj (hWork.symm.trans hNext)
      exact ⟨shifts, world.state, rfl⟩
    · rw [List.map_append]
      rfl
  · obtain ⟨earlier, found, rfl⟩ := h.last _ hBefore
    obtain ⟨hLinked, hFound⟩ := linked_append.mp h.linked
    refine ⟨earlier ++ [⟨i, found, rest reply state⟩],
      ⟨?_, linked_append.mpr ⟨hLinked, hFound⟩, ?_, ?_⟩, ?_⟩
    · obtain ⟨hEarlier, hLast⟩ := List.forall_mem_append.mp hReached
      refine List.forall_mem_append.mpr ⟨hEarlier, List.forall_mem_singleton.mpr ?_⟩
      obtain ⟨caller, hCaller, hRest⟩ := List.forall_mem_singleton.mp hLast
      exact ⟨caller, hCaller, hRest.answer reply⟩
    · rw [leftBy_append, World.current, hWork]
    · rintro work hNext
      obtain rfl := Option.some.inj (hWork.symm.trans hNext)
      exact ⟨earlier, found, rfl⟩
    · rw [List.map_append, List.map_append]
      exact (List.append_nil _).symm

theorem Course.exists_row (h : Course start events world) :
    ∃ shifts : List (Shift σ R α), Row start world shifts ∧
      shifts.map Shift.caller = started events := by
  induction h with
  | begin => exact ⟨[], ⟨List.forall_mem_nil _, trivial, rfl, nofun⟩, rfl⟩
  | step h hStep ih =>
    obtain ⟨shifts, hRow, hStarted⟩ := ih
    obtain ⟨later, hLater, hCallers⟩ := hRow.step hStep
    refine ⟨later, hLater, ?_⟩
    rw [hCallers, hStarted, started, started, filterMap_concat]

end Row

section ends

variable {world : World σ R α} {start : σ} {events before after : List Event} {event : Event} {i : Nat}

end ends

end Executor

end BeanBridge
