import BeanBridge.Executor.Basic
import BeanBridge.Proofs.Dialogue
import Mathlib.Data.List.Forall2

/-! Dialogues in step.  Two dialogues in states that are akin ask questions that are akin, and stay in
step for as long as the answers that they are given are akin too.  So what their states and answers
differ in shows in what they ask and come to only as far as the kinship lets it. -/

namespace BeanBridge

/-- Which states are akin, which questions, and which answers to these. -/
structure Kinship (σ : Type) {Q : Type} (R : Q → Type) where
  states : σ → σ → Prop
  questions : Q → Q → Prop
  answers : (question question' : Q) → R question → R question' → Prop

/-- The same waits, from which nothing is learned. -/
def Kinship.timed {σ : Type} (states : σ → σ → Prop) : Kinship σ Wait.Reply where
  states := states
  questions := Eq
  answers _ _ _ _ := True

namespace Dialogue

variable {σ τ Q α β γ δ : Type} {R : Q → Type}

inductive InStep (kin : Kinship σ R) (ending : α → β → Prop) :
    Dialogue σ R α → Dialogue σ R β → Prop where
  | done {state state' : σ} {value : α} {value' : β} (hState : kin.states state state')
    (hEnding : ending value value') : InStep kin ending (.done state value) (.done state' value')
  | ask {state state' : σ} {question question' : Q} {resume : R question → σ → Dialogue σ R α}
    {resume' : R question' → σ → Dialogue σ R β} (hState : kin.states state state')
    (hQuestion : kin.questions question question')
    (hNext : ∀ reply reply' later later', kin.answers question question' reply reply' →
      kin.states later later' → InStep kin ending (resume reply later) (resume' reply' later')) :
    InStep kin ending (.ask state question resume) (.ask state' question' resume')

section InStep

variable {kin : Kinship σ R} {ending : α → β → Prop} {dialogue : Dialogue σ R α}
  {dialogue' : Dialogue σ R β}

/-- What takes its time is in step with itself from the same state. -/
theorem InStep.refl (dialogue : Dialogue σ Wait.Reply α) :
    dialogue.InStep (.timed Eq) Eq dialogue := by
  induction dialogue with
  | done state value => exact .done rfl rfl
  | ask state wait resume ih =>
    refine .ask rfl rfl ?_
    rintro reply reply' later _ - rfl
    exact ih reply later

theorem InStep.mono {ending' : α → β → Prop} (h : dialogue.InStep kin ending dialogue')
    (hEnding : ∀ value value', ending value value' → ending' value value') :
    dialogue.InStep kin ending' dialogue' := by
  induction h with
  | done hState h => exact .done hState (hEnding _ _ h)
  | ask hState hQuestion _ ih => exact .ask hState hQuestion ih

theorem InStep.bind {ending' : γ → δ → Prop} {next : α → σ → Dialogue σ R γ}
    {next' : β → σ → Dialogue σ R δ} (h : dialogue.InStep kin ending dialogue')
    (hNext : ∀ value value' state state', ending value value' → kin.states state state' →
      (next value state).InStep kin ending' (next' value' state')) :
    (dialogue.bind next).InStep kin ending' (dialogue'.bind next') := by
  induction h with
  | done hState h => exact hNext _ _ _ _ h hState
  | ask hState hQuestion _ ih => exact .ask hState hQuestion ih

/-- Dialogues in step on a part of the state are in step, if nothing else is made of the rest.  The
states need not be akin before the parts have been put in. -/
theorem InStep.focus {kin : Kinship τ R} {states : σ → σ → Prop} {part : σ → τ} {put : τ → σ → σ}
    (hPart : ∀ state state', states state state' → kin.states (part state) (part state'))
    (hPut : ∀ t t' state state', kin.states t t' → states state state' →
      states (put t state) (put t' state'))
    {dialogue : Dialogue τ R α} {dialogue' : Dialogue τ R β}
    (h : dialogue.InStep kin ending dialogue') {state state' : σ}
    (hStart : ∀ t t', kin.states t t' → states (put t state) (put t' state')) :
    (dialogue.focus part put state).InStep { kin with states } ending
      (dialogue'.focus part put state') := by
  induction h generalizing state state' with
  | done hInner hEnding => exact .done (hStart _ _ hInner) hEnding
  | ask hInner hQuestion _ ih =>
    refine .ask (hStart _ _ hInner) hQuestion ?_
    intro reply reply' later later' hReply hLater
    exact ih reply reply' _ _ hReply (hPart _ _ hLater) fun t t' hParts => hPut t t' _ _ hParts hLater

/-- Dialogues in step wait at the same times, so both are given up or none is. -/
theorem InStep.within {states : σ → σ → Prop} {dialogue : Dialogue σ Wait.Reply α}
    {dialogue' : Dialogue σ Wait.Reply β}
    (h : dialogue.InStep (.timed states) ending dialogue') (limit : Nat) :
    (dialogue.within limit).InStep (.timed states) (Option.Rel ending)
      (dialogue'.within limit) := by
  induction h generalizing limit with
  | done hState hEnding => exact .done hState (.some hEnding)
  | @ask state state' wait wait' resume resume' hState hWait hNext ih =>
    obtain rfl : wait = wait' := hWait
    rw [Dialogue.within, Dialogue.within]
    split
    · refine .ask hState rfl ?_
      intro reply reply' later later' hReply hLater
      exact ih reply reply' later later' hReply hLater _
    · refine .ask hState rfl ?_
      intro reply reply' later later' _ hLater
      exact .done hLater .none

end InStep

/-! ### Runs in step -/

/-- The states in which a run lets time pass, and for how long. -/
def pauses (tick : Nat → σ → σ) : Dialogue σ Wait.Reply α → List (σ × Wait)
  | done _ _ => []
  | ask state wait resume =>
    (state, wait) :: (resume () (tick wait.milliseconds state)).pauses tick

/-- Runs in step let the same times pass in states that are akin, as long as both are told of the time
in such a way that they stay so. -/
theorem InStep.run {states : σ → σ → Prop} {ending : α → β → Prop}
    {dialogue : Dialogue σ Wait.Reply α} {dialogue' : Dialogue σ Wait.Reply β}
    (h : dialogue.InStep (.timed states) ending dialogue') {tick tick' : Nat → σ → σ}
    (hTick : ∀ milliseconds state state', states state state' →
      states (tick milliseconds state) (tick' milliseconds state')) :
    states (dialogue.run tick).2 (dialogue'.run tick').2 ∧
      ending (dialogue.run tick).1 (dialogue'.run tick').1 ∧
      List.Forall₂ (fun pause pause' => states pause.1 pause'.1 ∧ pause.2 = pause'.2)
        (dialogue.pauses tick) (dialogue'.pauses tick') := by
  induction h with
  | done hState hEnding => exact ⟨hState, hEnding, .nil⟩
  | @ask state state' wait wait' resume resume' hState hWait hNext ih =>
    obtain rfl : wait = wait' := hWait
    obtain ⟨hAfter, hEnding, hPauses⟩ :=
      ih () () _ _ trivial (hTick wait.milliseconds _ _ hState)
    exact ⟨hAfter, hEnding, .cons ⟨hState, rfl⟩ hPauses⟩

end Dialogue

/-! ### Actions in step -/

namespace Action

variable {σ τ Q α β γ δ : Type} {R : Q → Type}

/-- The actions are in step from any states that are akin. -/
def InStep (kin : Kinship σ R) (ending : α → β → Prop) (action : Action σ R α)
    (action' : Action σ R β) : Prop :=
  ∀ state state', kin.states state state' → (action state).InStep kin ending (action' state')

section InStep

variable {kin : Kinship σ R} {ending : α → β → Prop} {action : Action σ R α} {action' : Action σ R β}

theorem InStep.mono {ending' : α → β → Prop} (h : action.InStep kin ending action')
    (hEnding : ∀ value value', ending value value' → ending' value value') :
    action.InStep kin ending' action' :=
  fun _ _ hState => (h _ _ hState).mono hEnding

theorem InStep.pure {value : α} {value' : β} (h : ending value value') :
    (Pure.pure value : Action σ R α).InStep kin ending (Pure.pure value') :=
  fun _ _ hState => .done hState h

theorem InStep.bind {ending' : γ → δ → Prop} {next : α → Action σ R γ} {next' : β → Action σ R δ}
    (h : action.InStep kin ending action')
    (hNext : ∀ value value', ending value value' → (next value).InStep kin ending' (next' value')) :
    (action >>= next).InStep kin ending' (action' >>= next') :=
  fun _ _ hState => (h _ _ hState).bind fun value value' _ _ hEnding => hNext value value' hEnding _ _

theorem InStep.map {ending' : γ → δ → Prop} {change : α → γ} {change' : β → δ}
    (h : action.InStep kin ending action')
    (hChange : ∀ value value', ending value value' → ending' (change value) (change' value')) :
    (do return change (← action) : Action σ R γ).InStep kin ending'
      (do return change' (← action')) :=
  h.bind fun value value' hEnding => .pure (hChange value value' hEnding)

theorem InStep.modify {change change' : σ → σ}
    (h : ∀ state state', kin.states state state' → kin.states (change state) (change' state')) :
    (Action.modify change : Action σ R Unit).InStep kin Eq (Action.modify change') :=
  fun _ _ hState => .done (h _ _ hState) rfl

theorem InStep.ask {question question' : Q} (h : kin.questions question question') :
    (Action.ask question : Action σ R (R question)).InStep kin (kin.answers question question')
      (Action.ask question' : Action σ R (R question')) :=
  fun _ _ hState => .ask hState h fun _ _ _ _ hReply hLater => .done hLater hReply

/-- Actions in step on a part of the state are in step, if nothing else is made of the rest. -/
theorem InStep.focus {kin : Kinship τ R} {states : σ → σ → Prop} {part : σ → τ} {put : τ → σ → σ}
    (hPart : ∀ state state', states state state' → kin.states (part state) (part state'))
    (hPut : ∀ t t' state state', kin.states t t' → states state state' →
      states (put t state) (put t' state'))
    {action : Action τ R α} {action' : Action τ R β} (h : action.InStep kin ending action') :
    (action.focus part put).InStep { kin with states } ending (action'.focus part put) :=
  fun _ _ hState => (h _ _ (hPart _ _ hState)).focus hPart hPut fun _ _ hParts =>
    hPut _ _ _ _ hParts hState

theorem InStep.within {states : σ → σ → Prop} {action : Timed σ α} {action' : Timed σ β}
    (h : action.InStep (.timed states) ending action') (limit : Nat) :
    InStep (.timed states) (Option.Rel ending) (Timed.within limit action)
      (Timed.within limit action') :=
  fun state state' hState => (h state state' hState).within limit

end InStep

end Action

/-! ### Calls answered in step -/

/-- The outcomes are akin: values that are, or breakdowns with one message. -/
def Outcome.Akin {α β : Type} (values : α → β → Prop) : Outcome α → Outcome β → Prop
  | value v, value v' => values v v'
  | crash message, crash message' => message = message'
  | _, _ => False

theorem Outcome.Akin.refl {α : Type} {values : α → α → Prop} (h : ∀ value, values value value) :
    ∀ outcome : Outcome α, outcome.Akin values outcome
  | value v => h v
  | crash _ => rfl

/-- Calls that are akin are answered in step: from states that are alike with outcomes that are akin
after the same waits, and in states that are alike again. -/
def Connector.InStep {σ κ : Type} (kin : Kinship σ Call.Reply) (alike : κ → κ → Prop)
    (connector connector' : Connector κ) : Prop :=
  ∀ call call', kin.questions call call' →
    (connector call).InStep (.timed alike) (Outcome.Akin (kin.answers call call')) (connector' call')

/-- The connector is in step with itself. -/
abbrev Connector.Blind {σ κ : Type} (connector : Connector κ) (kin : Kinship σ Call.Reply)
    (alike : κ → κ → Prop := Eq) : Prop :=
  connector.InStep kin alike connector

/-- The states of dialogues and of what answers their calls. -/
abbrev Kinship.answered {σ κ : Type} (kin : Kinship σ Call.Reply) (alike : κ → κ → Prop := Eq) :
    Kinship (σ × κ) Wait.Reply :=
  .timed fun whole whole' => kin.states whole.1 whole'.1 ∧ alike whole.2 whole'.2

section answeredBy

variable {σ κ α β : Type} {kin : Kinship σ Call.Reply} {alike : κ → κ → Prop} {ending : α → β → Prop}

/-- What answers a call is in step as a part of the whole as well. -/
theorem Dialogue.InStep.answer {reply : Dialogue κ Wait.Reply α} {reply' : Dialogue κ Wait.Reply β}
    (h : reply.InStep (.timed alike) ending reply') {whole whole' : σ × κ}
    (hWhole : (kin.answered alike).states whole whole') :
    (reply.focus Prod.snd (fun inner whole => (whole.1, inner)) whole).InStep (kin.answered alike)
      ending (reply'.focus Prod.snd (fun inner whole => (whole.1, inner)) whole') :=
  h.focus (fun _ _ hWhole => hWhole.2) (fun _ _ _ _ hInner hWhole => ⟨hWhole.1, hInner⟩)
    fun _ _ hInner => ⟨hWhole.1, hInner⟩

theorem Dialogue.InStep.answeredBy {dialogue : Dialogue σ Call.Reply α}
    {dialogue' : Dialogue σ Call.Reply β} {connector connector' : Connector κ}
    (h : dialogue.InStep kin ending dialogue') (hConnector : connector.InStep kin alike connector')
    {inner inner' : κ} (hInner : alike inner inner') :
    (dialogue.answeredBy connector inner).InStep (kin.answered alike) (Outcome.Akin ending)
      (dialogue'.answeredBy connector' inner') := by
  induction h generalizing inner inner' with
  | done hState hEnding => exact .done ⟨hState, hInner⟩ hEnding
  | @ask state state' call call' resume resume' hState hCall _ ih =>
    rw [Dialogue.answeredBy, Dialogue.answeredBy]
    have hStart : (kin.answered alike).states (state, inner) (state', inner') := ⟨hState, hInner⟩
    refine ((hConnector call call' hCall inner inner' hInner).answer hStart).bind ?_
    rintro (reply | message) (reply' | message') whole whole' hOutcome ⟨hState, hInner⟩
    · exact ih reply reply' whole.1 whole'.1 hOutcome hState hInner
    · exact hOutcome.elim
    · exact hOutcome.elim
    · exact .done ⟨hState, hInner⟩ hOutcome

theorem Action.InStep.answeredBy {action : Action σ Call.Reply α} {action' : Action σ Call.Reply β}
    {connector connector' : Connector κ} (h : action.InStep kin ending action')
    (hConnector : connector.InStep kin alike connector') :
    Action.InStep (kin.answered alike) (Outcome.Akin ending) (action.answeredBy connector)
      (action'.answeredBy connector') :=
  fun whole whole' ⟨hState, hInner⟩ => (h whole.1 whole'.1 hState).answeredBy hConnector hInner

end answeredBy

/-! ### Jobs in step -/

section jobs

variable {σ α β : Type} {states : σ → σ → Prop} {ending : Except Failure α → Except Failure β → Prop}
  (hPlain : ∀ message : String,
    ending (.error (.operation message "" "")) (.error (.operation message "" "")))
include hPlain

theorem Executor.inStep_delivered {outcome : Outcome (Except Failure α)}
    {outcome' : Outcome (Except Failure β)} (h : outcome.Akin ending outcome') :
    ending (delivered outcome) (delivered outcome') := by
  rcases outcome with result | message <;> rcases outcome' with result' | message'
  · exact h
  · exact h.elim
  · exact h.elim
  · obtain rfl : message = message' := h
    exact hPlain _

/-- Jobs in step come to results that are akin within the same deadline, if the failures of jobs that
came to nothing are. -/
theorem Executor.inStep_call (submission : Submission σ α) (submission' : Submission σ β)
    (hTimeout : submission.timeout = submission'.timeout) {state state' : σ}
    (hJob : (submission.job state).InStep (.timed states) (Outcome.Akin ending)
      (submission'.job state')) :
    (call submission state).InStep (.timed states) ending (call submission' state') := by
  rw [call, call, perform, perform, hTimeout]
  split
  · exact hJob.bind fun _ _ _ _ hOutcome hStates =>
      .done hStates (inStep_delivered hPlain hOutcome)
  · simp only
    -- The deadline has not passed before anybody waited.
    rw [if_neg (by omega), if_neg (by omega)]
    refine (hJob.within _).bind ?_
    rintro _ _ after after' (hOutcome | -) hStates
    · exact .done hStates (inStep_delivered hPlain hOutcome)
    · exact .done hStates (hPlain _)

end jobs

end BeanBridge
