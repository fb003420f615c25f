/-! Computations on a state that ask questions on their way.  A dialogue is the whole tree of its
courses: after each question it goes on with the answer, and with the state as it is by then, so a
dialogue can be left at any question and the state found there is the state it leaves behind. -/

namespace BeanBridge

/-- A computation on a state `σ` that asks questions `q : Q`, each answered by an `R q`, and yields
an `α`. -/
inductive Dialogue (σ : Type) {Q : Type} (R : Q → Type) (α : Type) where
  | done (state : σ) (value : α)
  | ask (state : σ) (question : Q) (resume : R question → σ → Dialogue σ R α)

namespace Dialogue

variable {σ τ Q : Type} {R : Q → Type} {α β : Type}

/-- Goes on with `next` at the end. -/
def bind (next : α → σ → Dialogue σ R β) : Dialogue σ R α → Dialogue σ R β
  | done state value => next value state
  | ask state question resume =>
    ask state question fun reply state => (resume reply state).bind next

/-- The dialogue on a part of a state as a dialogue on the state. -/
def focus (part : σ → τ) (put : τ → σ → σ) (state : σ) : Dialogue τ R α → Dialogue σ R α
  | done t value => done (put t state) value
  | ask t question resume =>
    ask (put t state) question fun reply state =>
      focus part put state (resume reply (part state))

/-- The state at the end or at the question asked next. -/
def state : Dialogue σ R α → σ
  | done state _ => state
  | ask state _ _ => state

end Dialogue

/-- What starts in a state and goes on as a dialogue. -/
def Action (σ : Type) {Q : Type} (R : Q → Type) (α : Type) : Type := σ → Dialogue σ R α

namespace Action

variable {σ τ Q : Type} {R : Q → Type} {α β : Type}

instance : Monad (Action σ R) where
  pure value := fun state => .done state value
  bind action next := fun state => (action state).bind next

def get : Action σ R σ := fun state => .done state state

def modify (change : σ → σ) : Action σ R Unit := fun state => .done (change state) ()

/-- Asks a question. -/
def ask (question : Q) : Action σ R (R question) :=
  fun state => .ask state question fun reply state => .done state reply

/-- An action on a part of the state. -/
def focus (part : σ → τ) (put : τ → σ → σ) (action : Action τ R α) : Action σ R α :=
  fun state => (action (part state)).focus part put state

end Action

end BeanBridge
