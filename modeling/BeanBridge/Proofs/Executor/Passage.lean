import BeanBridge.Executor.Course

/-! How a call gets on in a course.  A step either leaves a call where it was or takes it further, so
each passage of a call has its moment in the course. -/

namespace BeanBridge.Executor

variable {σ α Q : Type} {R : Q → Type}

/-- A course with the moments at which its events happened. -/
inductive Chronicle (start : σ) : List (World σ R α × Event) → World σ R α → Prop where
  | begin : Chronicle start [] { state := start }
  | step {moments : List (World σ R α × Event)} {event : Event} {world next : World σ R α} :
      Chronicle start moments world → Step world event next →
      Chronicle start (moments ++ [(world, event)]) next

section chronicle

variable {world next : World σ R α} {start : σ} {moments : List (World σ R α × Event)}
  {events : List Event} {event : Event}

/-- Every course has its moments. -/
theorem course_iff_chronicle :
    Course start events world ↔
      ∃ moments, Chronicle start moments world ∧ moments.map Prod.snd = events := by
  constructor
  · intro h
    induction h with
    | begin => exact ⟨[], .begin, rfl⟩
    | step _ hStep ih =>
      obtain ⟨moments, hMoments, rfl⟩ := ih
      exact ⟨_, hMoments.step hStep, List.map_append ..⟩
  · rintro ⟨moments, h, rfl⟩
    induction h with
    | begin => exact .begin
    | step _ hStep ih =>
      rw [List.map_append]
      exact ih.step hStep

theorem Chronicle.course (h : Chronicle start moments world) :
    Course start (moments.map Prod.snd) world :=
  course_iff_chronicle.mpr ⟨moments, h, rfl⟩

theorem Step.now_le (h : Step world event next) : world.now ≤ next.now := by
  cases h with
  | passTime milliseconds => exact Nat.le_add_right _ _
  | _ => exact Nat.le_refl _

end chronicle

/-- Whose call gets further. -/
def Event.moved? : Event → Option Nat
  | enter i | finish i | returnOutcome i | expire i | interrupt i | goAway i => some i
  | _ => none

/-- The caller's call returns, or the caller goes away. -/
def Event.Ends (i : Nat) : Event → Prop
  | returnOutcome j | expire j | interrupt j | goAway j => j = i
  | _ => False

/-- What becomes of a call in a step. -/
inductive Passage (world : World σ R α) (i : Nat) (caller : Caller σ R α) :
    Event → Caller σ R α → Prop where
  | stay {event : Event} : event.moved? ≠ some i → Passage world i caller event caller
  | enter : caller.progress = .outside →
      Passage world i caller (.enter i) (caller.enter world.now)
  | finish {since : Nat} {final : σ} {outcome : Outcome (Except Failure α)} :
      world.worker = .polling i (some (.done final outcome)) → caller.progress = .waiting since →
      Passage world i caller (.finish i) { caller with progress := .served outcome }
  /-- The outcome is lost. -/
  | lose {final : σ} {outcome : Outcome (Except Failure α)} :
      world.worker = .polling i (some (.done final outcome)) →
      (∀ since, caller.progress ≠ .waiting since) → Passage world i caller (.finish i) caller
  | returnOutcome {outcome : Outcome (Except Failure α)} : caller.progress = .served outcome →
      Passage world i caller (.returnOutcome i) (caller.close (.returned (delivered outcome)))
  | expire {since : Nat} : caller.progress = .waiting since → 0 < caller.timeout.toInt →
      since + caller.timeout.toInt.toNat ≤ world.now →
      Passage world i caller (.expire i)
        (caller.close (.returned (.error (Fault.timedOut caller.timeout).failure)))
  | interrupt : ¬caller.progress.isOver →
      Passage world i caller (.interrupt i)
        (caller.close (.returned (.error Fault.interrupted.failure)))
  | goAway : ¬caller.progress.isOver →
      Passage world i caller (.goAway i) (caller.close .abandoned)

namespace Passage

variable {world : World σ R α} {i : Nat} {caller later : Caller σ R α} {event : Event}

/-- A call keeps its job, its deadline and the time at which it was made. -/
theorem eq (h : Passage world i caller event later) :
    later = { caller with progress := later.progress, isCancelled := later.isCancelled } := by
  cases h <;> rfl

theorem not_isOver {progress : Progress α} (h : caller.progress = progress)
    (hOpen : progress.isOver = false) : ¬caller.progress.isOver := by
  rw [h, hOpen]
  exact Bool.false_ne_true

/-- A call that is inside stays where it is, until it is served or over. -/
theorem served_or_over (h : Passage world i caller event later)
    (hInside : caller.progress ≠ .outside) :
    later.progress = caller.progress ∨ (∃ outcome, later.progress = .served outcome) ∨
      later.progress.isOver := by
  cases h with
  | stay _ | lose _ _ => exact .inl rfl
  | enter hOutside => exact absurd hOutside hInside
  | finish _ _ => exact .inr (.inl ⟨_, rfl⟩)
  | returnOutcome _ | expire _ _ _ | interrupt _ | goAway _ => exact .inr (.inr rfl)

theorem inside (h : Passage world i caller event later) (hInside : caller.progress ≠ .outside) :
    later.progress ≠ .outside := by
  intro hOutside
  rcases h.served_or_over hInside with hSame | ⟨outcome, hServed⟩ | hOver
  · exact hInside (hSame.symm.trans hOutside)
  · nomatch hOutside.symm.trans hServed
  · rw [hOutside] at hOver
    nomatch hOver

/-- A token is cancelled only with the end of a call. -/
theorem isOver_of_isCancelled (h : Passage world i caller event later)
    (hCaller : caller.isCancelled → caller.progress.isOver) (hLater : later.isCancelled) :
    later.progress.isOver := by
  have hOpen {progress : Progress α} (hProgress : caller.progress = progress)
      (hNot : progress.isOver = false) : ¬caller.isCancelled := by
    intro hCancelled
    exact not_isOver hProgress hNot (hCaller hCancelled)
  cases h with
  | stay _ | lose _ _ => exact hCaller hLater
  | enter hOutside => exact absurd hLater (hOpen hOutside rfl)
  | finish _ hWaiting => exact absurd hLater (hOpen hWaiting rfl)
  | returnOutcome _ | expire _ _ _ | interrupt _ | goAway _ => rfl

/-- When a call ends that is inside, the token of its job is cancelled. -/
theorem isCancelled_of_isOver (h : Passage world i caller event later)
    (hInside : caller.progress ≠ .outside) (hCaller : caller.progress.isOver → caller.isCancelled)
    (hLater : later.progress.isOver) : later.isCancelled := by
  have hClosed (hOpen : ¬caller.progress.isOver) (progress : Progress α) :
      (caller.close progress).isCancelled := by
    have hIn : caller.progress.isInside := by
      cases hProgress : caller.progress with
      | outside => exact absurd hProgress hInside
      | waiting since => rfl
      | served outcome => rfl
      | returned result => exact absurd (by rw [hProgress]; rfl) hOpen
      | abandoned => exact absurd (by rw [hProgress]; rfl) hOpen
    rw [Caller.close, hIn, Bool.or_true]
  cases h with
  | stay _ | lose _ _ => exact hCaller hLater
  | enter hOutside => exact absurd hOutside hInside
  | finish _ _ => nomatch hLater
  | returnOutcome hProgress | expire hProgress _ _ => exact hClosed (not_isOver hProgress rfl) _
  | interrupt hOpen | goAway hOpen => exact hClosed hOpen _

end Passage

section passage

variable {world next : World σ R α} {start : σ} {events : List Event} {event : Event} {i j : Nat}
  {caller later : Caller σ R α}

theorem World.progress_of_get (h : world.callers[i]? = some caller) :
    world.progress i = caller.progress := by
  rw [progress, h]
  rfl

theorem World.isCancelled_of_get (h : world.callers[i]? = some caller) :
    world.isCancelled i = caller.isCancelled := by
  rw [isCancelled, h]
  rfl

theorem World.get_update_self (h : world.callers[i]? = some caller)
    (change : Caller σ R α → Caller σ R α) :
    (world.update i change).callers[i]? = some (change caller) := by
  rw [update, List.getElem?_modify_eq, h]
  rfl

theorem World.get_update_ne (h : j ≠ i) (change : Caller σ R α → Caller σ R α) :
    (world.update j change).callers[i]? = world.callers[i]? := by
  rw [update, List.getElem?_modify_ne _ _ h]

/-- A step leaves a call where it was or takes it further. -/
theorem Step.passage (h : Step world event next) (hCaller : world.callers[i]? = some caller) :
    ∃ later, next.callers[i]? = some later ∧ Passage world i caller event later := by
  have hMoved {j : Nat} {change : Caller σ R α → Caller σ R α} (hEvent : event.moved? = some j)
      (hNext : next.callers = (world.update j change).callers)
      (hPassage : j = i → Passage world i caller event (change caller)) :
      ∃ later, next.callers[i]? = some later ∧ Passage world i caller event later := by
    by_cases hSame : j = i
    · refine ⟨change caller, ?_, hPassage hSame⟩
      rw [hNext, hSame, World.get_update_self hCaller]
    · refine ⟨caller, ?_, .stay fun hOwn => hSame ?_⟩
      · rw [hNext, World.get_update_ne hSame, hCaller]
      · exact Option.some.inj (hEvent.symm.trans hOwn)
  cases h with
  | call timeout job =>
    refine ⟨caller, ?_, .stay (Option.some_ne_none i).symm⟩
    rw [World.call, List.getElem?_append_left (List.getElem?_eq_some_iff.mp hCaller).1, hCaller]
  | enter _ hFound hOutside _ =>
    refine hMoved rfl rfl ?_
    rintro rfl
    obtain rfl := Option.some.inj (hFound.symm.trans hCaller)
    exact .enter hOutside
  | finish hWorker =>
    refine hMoved rfl rfl ?_
    rintro rfl
    rw [Caller.serve]
    split
    · next hWaiting => exact .finish hWorker hWaiting
    · next hNot => exact .lose hWorker hNot
  | returnOutcome hFound hServed =>
    refine hMoved rfl rfl ?_
    rintro rfl
    obtain rfl := Option.some.inj (hFound.symm.trans hCaller)
    exact .returnOutcome hServed
  | expire hFound hWaiting hPositive hPassed =>
    refine hMoved rfl rfl ?_
    rintro rfl
    obtain rfl := Option.some.inj (hFound.symm.trans hCaller)
    exact .expire hWaiting hPositive hPassed
  | interrupt hFound hGone =>
    refine hMoved rfl rfl ?_
    rintro rfl
    obtain rfl := Option.some.inj (hFound.symm.trans hCaller)
    refine .interrupt ?_
    rcases hGone with ⟨hOutside, -⟩ | ⟨since, hWaiting, -⟩
    · exact Passage.not_isOver hOutside rfl
    · exact Passage.not_isOver hWaiting rfl
  | goAway hFound hOpen =>
    refine hMoved rfl rfl ?_
    rintro rfl
    obtain rfl := Option.some.inj (hFound.symm.trans hCaller)
    exact .goAway hOpen
  | take | skip | keep | look | cancel | start | resume | suspend | passTime | stop =>
    exact ⟨caller, hCaller, .stay (Option.some_ne_none i).symm⟩

/-- Callers come by calls only. -/
theorem Step.callers_of_ne_call (h : Step world event next) (hEvent : event ≠ .call) :
    next.callers.length = world.callers.length := by
  cases h with
  | call => exact absurd rfl hEvent
  | enter | finish | returnOutcome | expire | interrupt | goAway => exact List.length_modify ..
  | take | skip | keep | look | cancel | start | resume | suspend | passTime | stop => rfl

/-- After a step a call was just made, or it was there before and was left or taken further. -/
theorem Step.called_or_passage (h : Step world event next) (hLater : next.callers[i]? = some later) :
    (event = .call ∧ world.callers[i]? = none ∧ later.progress = .outside ∧
      later.isCancelled = false ∧ later.calledAt = world.now) ∨
    ∃ caller, world.callers[i]? = some caller ∧ Passage world i caller event later := by
  cases hCaller : world.callers[i]? with
  | some caller =>
    obtain ⟨found, hNext, hPassage⟩ := h.passage hCaller
    obtain rfl := Option.some.inj (hNext.symm.trans hLater)
    exact .inr ⟨caller, rfl, hPassage⟩
  | none =>
    have hOut := List.getElem?_eq_none_iff.mp hCaller
    have hIn := (List.getElem?_eq_some_iff.mp hLater).1
    by_cases hEvent : event = .call
    · subst hEvent
      cases h with
      | call timeout job =>
        have hLast : i = world.callers.length := by
          have hLength : i < (world.callers ++ [_]).length := hIn
          rw [List.length_append, List.length_singleton] at hLength
          omega
        rw [World.call, hLast, List.getElem?_concat_length] at hLater
        obtain rfl := Option.some.inj hLater
        exact .inl ⟨rfl, rfl, rfl, rfl, rfl⟩
    · rw [h.callers_of_ne_call hEvent] at hIn
      omega

/-- The job of a caller who waits entered the queue at the time that the caller remembers. -/
theorem Chronicle.enter_of_waiting {moments : List (World σ R α × Event)}
    (h : Chronicle start moments world) {since : Nat}
    (hCaller : world.callers[i]? = some caller) (hWaiting : caller.progress = .waiting since) :
    ∃ entering, (entering, .enter i) ∈ moments ∧ entering.now = since := by
  induction h generalizing caller since with
  | begin => nomatch hCaller
  | @step moments event world next h hStep ih =>
    obtain ⟨-, -, hOutside, -⟩ | ⟨earlier, hEarlier, hPassage⟩ :=
      hStep.called_or_passage hCaller
    · rw [hOutside] at hWaiting
      nomatch hWaiting
    · cases hPassage with
      | stay _ | lose _ _ =>
        obtain ⟨entering, hMem, hSince⟩ := ih hEarlier hWaiting
        exact ⟨entering, List.mem_append_left _ hMem, hSince⟩
      | enter _ =>
        obtain rfl := Progress.waiting.inj hWaiting
        exact ⟨world, List.mem_append_right _ List.mem_cons_self, rfl⟩
      | _ => nomatch hWaiting

end passage

end BeanBridge.Executor
