import BeanBridge.Connector.Call
import BeanBridge.Proofs.Dialogue

/-! Dialogues whose calls a connector answers, one behind another. -/

namespace BeanBridge

/-- Answering what goes on behind a dialogue is answering the dialogue and then, unless the
connector broke down, what goes on. -/
theorem Dialogue.answeredBy_bind {σ κ α β : Type} (connector : Connector κ)
    (dialogue : Dialogue σ Call.Reply α) (next : α → σ → Dialogue σ Call.Reply β) (inner : κ) :
    (dialogue.bind next).answeredBy connector inner =
      (dialogue.answeredBy connector inner).bind fun outcome whole =>
        outcome.elim (fun value => (next value whole.1).answeredBy connector whole.2)
          fun message => .done whole (.crash message) := by
  induction dialogue generalizing inner with
  | done state value => rfl
  | ask state call resume ih =>
    rw [Dialogue.bind, answeredBy, answeredBy, bind_assoc]
    congr 1
    funext outcome whole
    cases outcome with
    | value reply => exact ih reply whole.1 whole.2
    | crash message => rfl

/-- Of what is done on a part of a state, the run while calls are answered is that on the part.  Time
may change the rest of the state. -/
theorem Dialogue.run_answeredBy_focus {σ τ κ α : Type} (connector : Connector κ)
    (tick : Nat → κ → κ) {part : σ → τ} {put : τ → σ → σ}
    (hGet : ∀ t state, part (put t state) = t) {drift : Nat → σ → σ}
    (hDrift : ∀ milliseconds state, part (drift milliseconds state) = part state)
    (dialogue : Dialogue τ Call.Reply α) (state : σ) (inner : κ) :
    let run := (dialogue.answeredBy connector inner).run
      fun milliseconds whole => (whole.1, tick milliseconds whole.2)
    ∃ after, part after = run.2.1 ∧
      ((dialogue.focus part put state).answeredBy connector inner).run
          (fun milliseconds whole => (drift milliseconds whole.1, tick milliseconds whole.2)) =
        (run.1, (after, run.2.2)) := by
  induction dialogue generalizing state inner with
  | done t value => exact ⟨put t state, hGet t state, rfl⟩
  | ask t call resume ih =>
    have hKept (milliseconds : Nat) (now : σ) (h : part now = t) : part (drift milliseconds now) = t :=
      (hDrift milliseconds now).trans h
    obtain ⟨later, hLater, hCall⟩ := run_focus_snd tick hKept (connector call inner)
      (put t state, inner) (hGet t state)
    have hStill (milliseconds : Nat) (now : τ) (h : now = t) : (fun _ now => now) milliseconds now = t :=
      h
    obtain ⟨same, hSame, hCall'⟩ := run_focus_snd tick hStill (connector call inner) (t, inner) rfl
    subst hSame
    rw [focus, answeredBy, answeredBy, run_bind, run_bind, hCall, hCall']
    cases ((connector call inner).run tick).1 with
    | crash message => exact ⟨later, hLater, rfl⟩
    | value reply =>
      rw [hLater]
      exact ih reply _ later _

namespace Action

variable {σ κ α β : Type} {connector : Connector κ}

/-- The run of an action, its calls answered, goes on with the value of its first part. -/
theorem run_answeredBy_bind {tick : Nat → σ × κ → σ × κ} {action : Action σ Call.Reply α}
    {next : α → Action σ Call.Reply β} {before after : σ × κ} {value : α}
    (h : (action.answeredBy connector before).run tick = (.value value, after)) :
    ((action >>= next).answeredBy connector before).run tick =
      ((next value).answeredBy connector after).run tick := by
  have hAction : ((action before.1).answeredBy connector before.2).run tick = _ := h
  refine (congrArg (Dialogue.run tick)
    (Dialogue.answeredBy_bind connector (action before.1) next before.2)).trans ?_
  rw [Dialogue.run_bind, hAction]
  rfl

/-- An action goes on with the value that its first part comes to. -/
theorem answeredBy_bind {action : Action σ Call.Reply α} {next : α → Action σ Call.Reply β}
    {before after : σ × κ} {value : α}
    (h : action.answeredBy connector before = .done after (.value value)) :
    (action >>= next).answeredBy connector before = (next value).answeredBy connector after := by
  refine (Dialogue.answeredBy_bind connector (action before.1) next before.2).trans ?_
  rw [show (action before.1).answeredBy connector before.2 = _ from h]
  rfl

/-- Of an action on a part of the state, the run is that on the part. -/
theorem run_answeredBy_focus {τ : Type} {part : σ → τ} (put : τ → σ → σ)
    (hGet : ∀ t state, part (put t state) = t) (drift : Nat → σ → σ)
    (hDrift : ∀ milliseconds state, part (drift milliseconds state) = part state)
    {tick : Nat → κ → κ} {action : Action τ Call.Reply α} {state : σ} {inner : κ}
    {outcome : Outcome α} {after : τ × κ}
    (h : (action.answeredBy connector (part state, inner)).run
      (fun milliseconds whole => (whole.1, tick milliseconds whole.2)) = (outcome, after)) :
    ∃ later, part later = after.1 ∧
      ((action.focus part put).answeredBy connector (state, inner)).run
          (fun milliseconds whole => (drift milliseconds whole.1, tick milliseconds whole.2)) =
        (outcome, (later, after.2)) := by
  obtain ⟨later, hLater, hRun⟩ := Dialogue.run_answeredBy_focus connector tick hGet hDrift
    (action (part state)) state inner
  have hAction : ((action (part state)).answeredBy connector inner).run _ = _ := h
  rw [hAction] at hLater hRun
  exact ⟨later, hLater, hRun⟩

/-- A call is answered as the connector answers it, while time changes the state. -/
theorem run_answeredBy_ask {P : σ → Prop} {drift : Nat → σ → σ}
    (hDrift : ∀ milliseconds state, P state → P (drift milliseconds state)) {tick : Nat → κ → κ}
    {call : Call} {reply : call.Reply} {state : σ} {inner after : κ}
    (h : (connector call inner).run tick = (.value reply, after)) (hState : P state) :
    ∃ later, P later ∧
      ((Action.ask call : Action σ Call.Reply call.Reply).answeredBy connector (state, inner)).run
          (fun milliseconds whole => (drift milliseconds whole.1, tick milliseconds whole.2)) =
        (.value reply, (later, after)) := by
  obtain ⟨later, hLater, hRun⟩ := Dialogue.run_focus_snd tick hDrift
    (connector call inner) (state, inner) hState
  refine ⟨later, hLater, ?_⟩
  rw [answeredBy, Action.ask, Dialogue.answeredBy, Dialogue.run_bind, hRun, h]
  rfl

/-- A call that is answered at once is an action that comes to the reply. -/
theorem answeredBy_ask {call : Call} {reply : call.Reply} {state : σ} {inner after : κ}
    (h : connector call inner = .done after (.value reply)) :
    (Action.ask call : Action σ Call.Reply call.Reply).answeredBy connector (state, inner) =
      .done (state, after) (.value reply) := by
  rw [answeredBy, Action.ask, Dialogue.answeredBy, h]
  rfl

end Action

end BeanBridge
