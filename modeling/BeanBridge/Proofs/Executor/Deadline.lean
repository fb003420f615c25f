import BeanBridge.Proofs.Executor.Outcome

/-! What a deadline covers.  It runs from when the job of a call enters the queue, whatever the queue
and the worker do from then on.  As long as there is no room in the queue it does not run, so that a
call waits outside for as long as the jobs before it take. -/

namespace BeanBridge.Executor

variable {σ α Q : Type} {R : Q → Type}

section

variable {world : World σ R α} {start : σ} {moments : List (World σ R α × Event)} {i : Nat}
  {caller : Caller σ R α}

theorem Chronicle.calledAt_le (h : Chronicle start moments world)
    (hCaller : world.callers[i]? = some caller) : caller.calledAt ≤ world.now := by
  induction h generalizing caller with
  | begin => nomatch hCaller
  | @step moments event world next h hStep ih =>
    obtain ⟨-, -, -, -, hCalled⟩ | ⟨earlier, hEarlier, hPassage⟩ := hStep.called_or_passage hCaller
    · rw [hCalled]
      exact hStep.now_le
    · have hBefore := ih hEarlier
      rw [hPassage.eq]
      exact Nat.le_trans hBefore hStep.now_le

/-- Whose job has entered the queue waits from then on, until it is served or its call is over. -/
theorem Chronicle.progress_of_enter (h : Chronicle start moments world) {entering : World σ R α}
    (hEnter : (entering, .enter i) ∈ moments) :
    ∃ caller, world.callers[i]? = some caller ∧ caller.calledAt ≤ entering.now ∧
      (caller.progress = .waiting entering.now ∨
        (∃ outcome, caller.progress = .served outcome) ∨ caller.progress.isOver) := by
  induction h with
  | begin => nomatch hEnter
  | @step moments event world next h hStep ih =>
    rcases List.mem_append.mp hEnter with hEarlier | hNow
    · obtain ⟨caller, hCaller, hCalled, hProgress⟩ := ih hEarlier
      obtain ⟨later, hNext, hPassage⟩ := hStep.passage hCaller
      have hInside : caller.progress ≠ .outside := by
        intro hOutside
        rw [hOutside] at hProgress
        simp [Progress.isOver] at hProgress
      refine ⟨later, hNext, by rwa [hPassage.eq], ?_⟩
      rcases hPassage.served_or_over hInside with hSame | hLater
      · rwa [hSame]
      · exact .inr hLater
    · obtain ⟨rfl, rfl⟩ := Prod.mk.inj (List.mem_singleton.mp hNow)
      cases hStep with
      | enter _ hCaller _ _ =>
        have hCalled := h.calledAt_le hCaller
        exact ⟨_, World.get_update_self hCaller _, hCalled, .inl rfl⟩

/-- A call can return for its deadline exactly when that long has passed since its job entered the
queue and the job has come to no end, whatever the others and the worker do. -/
theorem expires_iff_waited_since_entering (h : Chronicle start moments world)
    (hCaller : world.callers[i]? = some caller) (hPositive : 0 < caller.timeout.toInt)
    (hOpen : ¬caller.progress.isOver) :
    (∃ next, Step world (.expire i) next ∧
      next.progress i = .returned (.error (.operation
        ("request timeout exceeded: " ++ toString caller.timeout.toInt ++ "ms") "" ""))) ↔
    .finish i ∉ moments.map Prod.snd ∧ ∃ entering, (entering, .enter i) ∈ moments ∧
      caller.calledAt ≤ entering.now ∧
      entering.now + caller.timeout.toInt.toNat ≤ world.now := by
  constructor
  · rintro ⟨next, hStep, -⟩
    cases hStep with
    | expire hFound hWaiting _ hPassed =>
      obtain rfl := Option.some.inj (hFound.symm.trans hCaller)
      obtain ⟨entering, hEnter, rfl⟩ := h.enter_of_waiting hCaller hWaiting
      obtain ⟨found, hFound, hCalled, -⟩ := h.progress_of_enter hEnter
      obtain rfl := Option.some.inj (hFound.symm.trans hCaller)
      exact ⟨h.course.unfinished_of_waiting hCaller hWaiting, entering, hEnter, hCalled, hPassed⟩
  · rintro ⟨hUnfinished, entering, hEnter, -, hPassed⟩
    obtain ⟨found, hFound, -, hProgress⟩ := h.progress_of_enter hEnter
    obtain rfl := Option.some.inj (hFound.symm.trans hCaller)
    rcases hProgress with hWaiting | ⟨outcome, hServed⟩ | hOver
    · exact ⟨_, .expire hCaller hWaiting hPositive hPassed,
        World.progress_of_get (World.get_update_self hCaller _)⟩
    · obtain ⟨_, _, _, _, _, rfl, -⟩ := h.came_to_of_served hCaller hServed
      refine absurd ?_ hUnfinished
      exact List.mem_map_of_mem (List.mem_append_right _ List.mem_cons_self)
    · exact absurd hOver hOpen

end

/-- The deadline of a caller passes behind a job that never ends. -/
theorem expires_iff_waited_since_entering_behind_endless_job :
    ∃ world : World Nat (fun _ : Unit => Unit) Nat, ∃ moments caller, Chronicle 4 moments world ∧
      moments.map Prod.snd = [.call, .call, .enter 0, .passTime 30, .enter 1, .take 0, .keep 0,
        .look 0, .start 0, .suspend 0, .passTime 70] ∧
      world.callers[1]? = some caller ∧ caller.timeout = 70 ∧
      ∃ next, Step world (.expire 1) next ∧
        next.progress 1 = .returned (.error (.operation
          ("request timeout exceeded: " ++ toString caller.timeout.toInt ++ "ms") "" "")) := by
  let endless : Action Nat (fun _ : Unit => Unit) (Outcome (Except Failure Nat)) :=
    fun state => .ask state () fun _ state => .done state (.value (.ok state))
  let moment (now : Nat) (first second : Progress Nat) (queue : List Nat)
      (worker : Worker Nat (fun _ : Unit => Unit) Nat) :
      World Nat (fun _ : Unit => Unit) Nat :=
    { state := 4, now, queue, worker
      callers := [⟨0, endless, 0, first, false⟩, ⟨70, endless, 0, second, false⟩] }
  have hCalled : Chronicle 4 _ (moment 0 .outside .outside [] .idle) :=
    (Chronicle.begin.step (.call _ 0 endless)).step (.call _ 70 endless)
  have hFirst : Chronicle 4 _ (moment 30 (.waiting 0) .outside [0] .idle) :=
    (hCalled.step (.enter (i := 0) rfl rfl rfl (by decide))).step (.passTime _ 30)
  have hEntered : Chronicle 4 _ (moment 30 (.waiting 0) (.waiting 30) [0, 1] .idle) :=
    hFirst.step (.enter (i := 1) rfl rfl rfl (by decide))
  have hBegun := (((hEntered.step (.take rfl rfl rfl)).step (.keep rfl rfl)).step
    (.look rfl rfl)).step (.start (i := 0) rfl rfl)
  have hPassed := (hBegun.step (.suspend rfl)).step (.passTime _ 70)
  exact ⟨_, _, _, hPassed, rfl, rfl, rfl,
    (expires_iff_waited_since_entering hPassed rfl (by decide) (by decide)).mpr
      ⟨by decide, moment 30 (.waiting 0) .outside [0] .idle, by simp, by decide, by decide⟩⟩

/-! ### Outside the queue -/

/-- So many call, one after another, and each finds room for its job; the worker has the first. -/
def crowd : Nat → List Event
  | 0 => [.call, .enter 0, .take 0]
  | n + 1 => crowd n ++ [.call, .enter (n + 1)]

/-- All callers but the first wait for the worker. -/
def crowded (start : σ) (timeout : Int64) (job : Action σ R (Outcome (Except Failure α)))
    (n : Nat) : World σ R α :=
  { state := start
    callers := List.replicate (n + 1) ⟨timeout, job, 0, .waiting 0, false⟩
    queue := List.range' 1 n
    worker := .taken 0 }

/-- One more calls and finds room. -/
theorem crowded_succ (start : σ) (timeout : Int64)
    (job : Action σ R (Outcome (Except Failure α))) (n : Nat) :
    ((crowded start timeout job n).call timeout job).enter (n + 1) =
      crowded start timeout job (n + 1) := by
  let waiting : Caller σ R α := ⟨timeout, job, 0, .waiting 0, false⟩
  let outside : Caller σ R α := ⟨timeout, job, 0, .outside, false⟩
  have hCallers : (List.replicate (n + 1) waiting ++ [outside]).modify (n + 1) (·.enter 0) =
      List.replicate (n + 2) waiting := by
    have hModify := List.modifyTailIdx_add (List.modifyHead (Caller.enter 0)) 0
      (List.replicate (n + 1) waiting) [outside]
    rw [List.length_replicate] at hModify
    exact hModify.trans List.replicate_succ'.symm
  have hQueue : List.range' 1 n ++ [n + 1] = List.range' 1 (n + 1) := by
    rw [List.range'_1_concat, Nat.add_comm]
  rw [crowded, crowded, ← hCallers, ← hQueue]
  rfl

theorem course_crowd (start : σ) (timeout : Int64)
    (job : Action σ R (Outcome (Except Failure α))) {n : Nat} (h : n ≤ queueDepth) :
    Course start (crowd n) (crowded start timeout job n) := by
  induction n with
  | zero =>
    have hEntered : Course start [.call, .enter 0]
        { state := start, callers := [⟨timeout, job, 0, .waiting 0, false⟩], queue := [0] } :=
      (Course.begin.step (.call _ timeout job)).step
        (.enter (i := 0) rfl rfl rfl (Nat.zero_lt_succ 31))
    exact hEntered.step (.take rfl rfl rfl)
  | succ n ih =>
    have hCalled := (ih (Nat.le_of_succ_le h)).step (.call _ timeout job)
    have hLast : ((crowded start timeout job n).call timeout job).callers[n + 1]? =
        some ⟨timeout, job, 0, .outside, false⟩ := by
      simp [World.call, crowded]
    have hRoom : ((crowded start timeout job n).call timeout job).queue.length < queueDepth := by
      rw [World.call, crowded, List.length_range']
      exact h
    have hEntered := hCalled.step (.enter rfl hLast rfl hRoom)
    rwa [crowded_succ, List.append_assoc] at hEntered

/-- However long a call waits for room in the queue, its deadline does not run. -/
theorem waits_outside (start : σ) (timeout : Int64)
    (job : Action σ R (Outcome (Except Failure α))) (milliseconds : Nat) :
    ∃ world : World σ R α,
      Course start (crowd queueDepth ++ [.call, .passTime milliseconds]) world ∧
      world.now = milliseconds ∧
      world.callers[queueDepth + 1]? = some ⟨timeout, job, 0, .outside, false⟩ ∧
      ∀ next, ¬Step world (.expire (queueDepth + 1)) next := by
  have hCrowd := course_crowd start timeout job (Nat.le_refl queueDepth)
  have hCourse := (hCrowd.step (.call _ timeout job)).step (.passTime _ milliseconds)
  have hCaller : ((crowded start timeout job queueDepth).call timeout job).callers[
      queueDepth + 1]? = some ⟨timeout, job, 0, .outside, false⟩ := by
    simp [World.call, crowded]
  rw [List.append_assoc] at hCourse
  refine ⟨_, hCourse, Nat.zero_add milliseconds, hCaller, fun next hStep => ?_⟩
  cases hStep with
  | expire hFound hWaiting _ _ =>
    obtain rfl := Option.some.inj (hFound.symm.trans hCaller)
    cases hWaiting

/-- So a call cannot always return for its deadline when that long has passed since it was made and
its job has come to no end. -/
theorem deadline_misses_time_outside :
    ¬∀ (start : Nat) (events : List Event) (world : World Nat (fun _ : Unit => Unit) Nat) (i : Nat)
        (caller : Caller Nat (fun _ : Unit => Unit) Nat),
      Course start events world → world.callers[i]? = some caller → 0 < caller.timeout.toInt →
      ¬caller.progress.isOver → .finish i ∉ events →
      caller.calledAt + caller.timeout.toInt.toNat ≤ world.now →
        ∃ next, Step world (.expire i) next := by
  intro hCovered
  let endless : Action Nat (fun _ : Unit => Unit) (Outcome (Except Failure Nat)) :=
    fun state => .ask state () fun _ state => .done state (.value (.ok state))
  obtain ⟨world, hCourse, hNow, hCaller, hNever⟩ := waits_outside 4 100 endless 60000
  have hPassed : 0 + (100 : Int64).toInt.toNat ≤ world.now := by
    rw [hNow]
    decide
  obtain ⟨next, hStep⟩ :=
    hCovered 4 _ world _ _ hCourse hCaller (by decide) Bool.false_ne_true (by decide) hPassed
  exact hNever next hStep

end BeanBridge.Executor
