import BeanBridge.Connector.Call
import BeanBridge.Proofs.Dialogue

/-! Terms on which a dialogue is held.  They say which questions may be asked, what may become of the
state until an answer comes, and which answers come.  A dialogue that upholds the terms asks nothing
else, and ends as it should whatever the answers are. -/

namespace BeanBridge

/-- Terms on which a dialogue is held with another side, whose states are the `γ`. -/
structure Terms (σ : Type) {Q : Type} (R : Q → Type) (γ : Type) where
  /-- The question may be asked. -/
  admits : Q → σ → γ → Prop
  /-- What may become of the state until an answer comes. -/
  drifts : σ → σ → Prop
  /-- The answer that may come, and what the other side may be like then. -/
  answers : (question : Q) → γ → R question → γ → Prop

namespace Terms

variable {σ τ Q γ : Type} {R : Q → Type}

/-- The terms for a part of the state as terms for the state. -/
def on (terms : Terms τ R γ) (part : σ → τ) : Terms σ R γ where
  admits question state := terms.admits question (part state)
  drifts before after := terms.drifts (part before) (part after)
  answers := terms.answers

end Terms

namespace Dialogue

variable {σ τ Q γ α β : Type} {R : Q → Type}

/-- Whatever is answered on these terms, the questions asked are admitted, and `ending` holds at the
end. -/
def Upholds (terms : Terms σ R γ) (ending : α → σ → γ → Prop) : Dialogue σ R α → γ → Prop
  | done state value, other => ending value state other
  | ask state question resume, other =>
    terms.admits question state other ∧
      ∀ reply later next, terms.drifts state later → terms.answers question other reply next →
        (resume reply later).Upholds terms ending next

section Upholds

variable {terms : Terms σ R γ} {ending : α → σ → γ → Prop} {dialogue : Dialogue σ R α} {other : γ}

theorem Upholds.mono {ending' : α → σ → γ → Prop} (h : dialogue.Upholds terms ending other)
    (hEnding : ∀ value state other, ending value state other → ending' value state other) :
    dialogue.Upholds terms ending' other := by
  induction dialogue generalizing other with
  | done state value => exact hEnding _ _ _ h
  | ask state question resume ih =>
    exact ⟨h.1, fun reply later next hDrifts hAnswers =>
      ih reply later (h.2 reply later next hDrifts hAnswers)⟩

theorem Upholds.and {ending' : α → σ → γ → Prop} (h : dialogue.Upholds terms ending other)
    (h' : dialogue.Upholds terms ending' other) :
    dialogue.Upholds terms
      (fun value state other => ending value state other ∧ ending' value state other) other := by
  induction dialogue generalizing other with
  | done state value => exact ⟨h, h'⟩
  | ask state question resume ih =>
    exact ⟨h.1, fun reply later next hDrifts hAnswers =>
      ih reply later (h.2 reply later next hDrifts hAnswers)
        (h'.2 reply later next hDrifts hAnswers)⟩

theorem Upholds.bind {ending' : β → σ → γ → Prop} {next : α → σ → Dialogue σ R β}
    (h : dialogue.Upholds terms ending other)
    (hNext : ∀ value state other, ending value state other →
      (next value state).Upholds terms ending' other) :
    (dialogue.bind next).Upholds terms ending' other := by
  induction dialogue generalizing other with
  | done state value => exact hNext _ _ _ h
  | ask state question resume ih =>
    exact ⟨h.1, fun reply later next hDrifts hAnswers =>
      ih reply later (h.2 reply later next hDrifts hAnswers)⟩

/-- What is upheld on a part of the state is upheld on the state. -/
theorem Upholds.focus {terms : Terms τ R γ} {ending : α → τ → γ → Prop} {part : σ → τ}
    {put : τ → σ → σ} (hGet : ∀ t state, part (put t state) = t) {dialogue : Dialogue τ R α}
    (h : dialogue.Upholds terms ending other) (state : σ) :
    (dialogue.focus part put state).Upholds (terms.on part)
      (fun value state => ending value (part state)) other := by
  induction dialogue generalizing state other with
  | done t value =>
    show ending value (part (put t state)) other
    rwa [hGet]
  | ask t question resume ih =>
    refine ⟨?_, fun reply later next hDrifts hAnswers => ?_⟩
    · show terms.admits question (part (put t state)) other
      rw [hGet]
      exact h.1
    · have hDrifts : terms.drifts (part (put t state)) (part later) := hDrifts
      rw [hGet] at hDrifts
      exact ih reply (part later) (h.2 reply (part later) next hDrifts hAnswers) later

end Upholds

/-- A run is one of the courses of a timed dialogue. -/
theorem Upholds.run {terms : Terms σ Wait.Reply γ} {ending : α → σ → γ → Prop}
    {dialogue : Dialogue σ Wait.Reply α} {other : γ} {tick : Nat → σ → σ}
    (h : dialogue.Upholds terms ending other)
    (hDrifts : ∀ milliseconds state, terms.drifts state (tick milliseconds state))
    (hAnswers : ∀ wait other, terms.answers wait other () other) :
    ending (dialogue.run tick).1 (dialogue.run tick).2 other := by
  induction dialogue with
  | done state value => exact h
  | ask state wait resume ih => exact ih () _ (h.2 () _ other (hDrifts _ state) (hAnswers wait other))

end Dialogue

/-- The value is of this kind, or this holds after a breakdown. -/
def Outcome.Satisfies {α : Type} (P : α → Prop) (broken : Prop) : Outcome α → Prop
  | value v => P v
  | crash _ => broken

/-- A connector keeps to terms when its answers to what they admit are as they say.  While it takes
its time the session and the connector drift as `timed` says. -/
def Connector.Honours {σ κ : Type} (connector : Connector κ) (terms : Terms σ Call.Reply κ)
    (timed : Terms (σ × κ) Wait.Reply Unit) (broken : σ × κ → Prop) : Prop :=
  ∀ call state inner, terms.admits call state inner →
    ((connector call inner).focus Prod.snd (fun inner whole => (whole.1, inner))
      (state, inner)).Upholds timed
        (fun outcome whole _ => outcome.Satisfies
          (fun reply => terms.drifts state whole.1 ∧ terms.answers call inner reply whole.2)
          (broken whole)) ()

/-- What a dialogue upholds over calls it upholds with a connector that keeps to the terms. -/
theorem Dialogue.Upholds.answeredBy {σ κ α : Type} {connector : Connector κ}
    {terms : Terms σ Call.Reply κ} {timed : Terms (σ × κ) Wait.Reply Unit} {broken : σ × κ → Prop}
    {ending : α → σ → κ → Prop} {dialogue : Dialogue σ Call.Reply α} {inner : κ}
    (h : dialogue.Upholds terms ending inner) (hConnector : connector.Honours terms timed broken) :
    (dialogue.answeredBy connector inner).Upholds timed
      (fun outcome whole _ => outcome.Satisfies (fun value => ending value whole.1 whole.2)
        (broken whole)) () := by
  induction dialogue generalizing inner with
  | done state value => exact h
  | ask state call resume ih =>
    rw [Dialogue.answeredBy]
    refine (hConnector call state inner h.1).bind fun outcome whole _ hOutcome => ?_
    cases outcome with
    | value reply =>
      obtain ⟨hDrifts, hAnswers⟩ := hOutcome
      exact ih reply whole.1 (h.2 reply whole.1 whole.2 hDrifts hAnswers)
    | crash message => exact hOutcome

end BeanBridge
