import BeanBridge.Proofs.Dialogue.Terms
import BeanBridge.Proofs.Executor.Serial

/-! What jobs keep of the state.  If every job that is begun in a state that is in order keeps it in
order, up to each of its questions and to its end, then the state is in order at every moment of every
course, also where it drifts meanwhile. -/

namespace BeanBridge

/-- How a state drifts: any number of times, and never out of order. -/
structure Drift {σ : Type} (inOrder : σ → Prop) (drifts : σ → σ → Prop) : Prop where
  refl : ∀ state, drifts state state
  trans : ∀ before middle after, drifts before middle → drifts middle after → drifts before after
  inOrder : ∀ before after, drifts before after → inOrder before → inOrder after

/-- Questions are asked when the state is in order, and it drifts until the answers, which are any. -/
def Terms.keeping {σ Q : Type} {R : Q → Type} (inOrder : σ → Prop) (drifts : σ → σ → Prop) :
    Terms σ R Unit where
  admits _ state _ := inOrder state
  drifts := drifts
  answers _ _ _ _ := True

namespace Dialogue

variable {σ Q α : Type} {R : Q → Type}

/-- The dialogue with a change of the state it is in. -/
def restate (change : σ → σ) : Dialogue σ R α → Dialogue σ R α
  | done state value => done (change state) value
  | ask state question resume => ask (change state) question resume

theorem state_restate (change : σ → σ) (dialogue : Dialogue σ R α) :
    (dialogue.restate change).state = change dialogue.state := by
  cases dialogue <;> rfl

/-- The state is in order at every question and at the end, however it drifts until the answers. -/
def Keeps (inOrder : σ → Prop) (drifts : σ → σ → Prop) (dialogue : Dialogue σ R α) : Prop :=
  dialogue.Upholds (Terms.keeping inOrder drifts) (fun _ state _ => inOrder state) ()

section Keeps

variable {inOrder : σ → Prop} {drifts : σ → σ → Prop} {dialogue : Dialogue σ R α}

theorem Keeps.state (h : dialogue.Keeps inOrder drifts) : inOrder dialogue.state := by
  cases dialogue with
  | done state value => exact h
  | ask state question resume => exact h.1

theorem Keeps.restate {change : σ → σ} (h : dialogue.Keeps inOrder drifts)
    (hDrift : Drift inOrder drifts) (hChange : ∀ state, drifts state (change state)) :
    (dialogue.restate change).Keeps inOrder drifts := by
  have hState := hDrift.inOrder _ _ (hChange dialogue.state) h.state
  cases dialogue with
  | done state value => exact hState
  | ask state question resume =>
    exact ⟨hState, fun reply later next hDrifts => h.2 reply later next
      (hDrift.trans _ _ _ (hChange state) hDrifts)⟩

end Keeps

end Dialogue

namespace Executor

variable {σ Q α : Type} {R : Q → Type}

/-- The worker with a change of the state that its job is in. -/
def Worker.restate (change : σ → σ) : Worker σ R α → Worker σ R α
  | idle => idle
  | taken i => taken i
  | keeping i rest => keeping i (rest.map (·.restate change))
  | polling i rest => polling i (rest.map (·.restate change))

theorem Worker.work_restate (change : σ → σ) (worker : Worker σ R α) :
    (worker.restate change).work =
      worker.work.map fun work => { work with rest := work.rest.restate change } := by
  cases worker with
  | idle | taken i => rfl
  | keeping i rest | polling i rest => cases rest <;> rfl

/-- What the jobs work on is changed from outside. -/
def World.disturb (change : σ → σ) (world : World σ R α) : World σ R α :=
  { world with state := change world.state, worker := world.worker.restate change }

theorem World.work_disturb (change : σ → σ) (world : World σ R α) :
    (world.disturb change).work =
      world.work.map fun work => { work with rest := work.rest.restate change } :=
  world.worker.work_restate change

theorem World.current_disturb (change : σ → σ) (world : World σ R α) :
    (world.disturb change).current = change world.current := by
  rw [current, current, work_disturb]
  cases world.work with
  | none => rfl
  | some work => exact work.rest.state_restate change

/-- Every course in which callers submit such jobs and the state drifts from outside. -/
inductive Use (isJob : Action σ R (Outcome (Except Failure α)) → Prop) (drifts : σ → σ → Prop)
    (start : σ) : World σ R α → Prop where
  | begin : Use isJob drifts start { state := start }
  | step {world next : World σ R α} {event : Event} :
      Use isJob drifts start world → Step world event next →
      (∀ caller ∈ next.callers, isJob caller.job) → Use isJob drifts start next
  | disturb {world : World σ R α} {change : σ → σ} :
      Use isJob drifts start world → (∀ state, drifts state (change state)) →
      Use isJob drifts start (world.disturb change)

/-- The state is in order, and the jobs keep it so. -/
structure World.InOrder (inOrder : σ → Prop) (drifts : σ → σ → Prop) (world : World σ R α) :
    Prop where
  current : inOrder world.current
  work : ∀ work ∈ world.work, work.rest.Keeps inOrder drifts
  jobs : ∀ caller ∈ world.callers, ∀ state, inOrder state →
    (caller.job state).Keeps inOrder drifts

section InOrder

variable {inOrder : σ → Prop} {drifts : σ → σ → Prop} {world next : World σ R α} {event : Event}

theorem World.InOrder.step (h : world.InOrder inOrder drifts)
    (hDrift : Drift inOrder drifts) (hStep : Step world event next)
    (hJobs : ∀ caller ∈ next.callers, ∀ state, inOrder state →
      (caller.job state).Keeps inOrder drifts) : next.InOrder inOrder drifts := by
  have hWorking {i : Nat} {rest : Dialogue σ R (Outcome (Except Failure α))}
      (hWork : next.work = some ⟨i, rest⟩) (hRest : rest.Keeps inOrder drifts) :
      next.InOrder inOrder drifts := by
    refine ⟨?_, ?_, hJobs⟩
    · rw [World.current, hWork]
      exact hRest.state
    · intro work hNext
      obtain rfl := Option.some.inj (hWork.symm.trans hNext)
      exact hRest
  -- Only a job that begins or goes on is at another place, and it gets there in order.
  rcases hStep.work_cases with ⟨-, hCurrent, hWork⟩ | ⟨i, caller, -, hIdle, hCaller, hWork⟩ |
    ⟨i, state, question, rest, reply, -, hBefore, hWork⟩
  · exact ⟨hCurrent ▸ h.current, fun work hNext => h.work work (hWork work hNext), hJobs⟩
  · have hState : inOrder world.state := by
      have hCurrent := h.current
      rwa [World.current, hIdle] at hCurrent
    exact hWorking hWork (h.jobs caller (List.mem_of_getElem? hCaller) _ hState)
  · exact hWorking hWork ((h.work _ hBefore).2 reply state () (hDrift.refl state) trivial)

theorem World.InOrder.disturb {change : σ → σ} (h : world.InOrder inOrder drifts)
    (hDrift : Drift inOrder drifts) (hChange : ∀ state, drifts state (change state)) :
    (world.disturb change).InOrder inOrder drifts where
  current := by
    rw [current_disturb]
    exact hDrift.inOrder _ _ (hChange world.current) h.current
  work := by
    intro work hWork
    rw [work_disturb] at hWork
    obtain ⟨before, hBefore, rfl⟩ := Option.map_eq_some_iff.mp hWork
    exact (h.work before hBefore).restate hDrift hChange
  jobs := h.jobs

/-- What every job keeps in order is in order at every moment. -/
theorem Use.world_inOrder {isJob : Action σ R (Outcome (Except Failure α)) → Prop} {start : σ}
    (h : Use isJob drifts start world) (hDrift : Drift inOrder drifts) (hStart : inOrder start)
    (hJobs : ∀ job, isJob job → ∀ state, inOrder state → (job state).Keeps inOrder drifts) :
    world.InOrder inOrder drifts := by
  induction h with
  | begin => exact ⟨hStart, nofun, nofun⟩
  | step h hStep hCallers ih =>
    exact ih.step hDrift hStep fun caller hCaller => hJobs caller.job (hCallers caller hCaller)
  | disturb h hChange ih => exact ih.disturb hDrift hChange

end InOrder

end Executor

end BeanBridge
