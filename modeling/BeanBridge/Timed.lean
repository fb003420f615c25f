import BeanBridge.Dialogue

/-! Computations that take time.  The only question of a timed dialogue is to be woken later. -/

namespace BeanBridge

/-- A wait of so many milliseconds. -/
structure Wait where
  milliseconds : Nat

/-- Nothing is learned by waiting. -/
abbrev Wait.Reply (_ : Wait) : Type := Unit

/-- A computation on a state that takes time. -/
abbrev Timed (σ α : Type) : Type := Action σ Wait.Reply α

/-- Lets time pass. -/
def Timed.pause {σ : Type} (milliseconds : Nat) : Timed σ Unit := Action.ask ⟨milliseconds⟩

namespace Dialogue

variable {σ α : Type}

/-- Gives up when the limit passes before the end; the state is then the one found at that time. -/
def within (limit : Nat) : Dialogue σ Wait.Reply α → Dialogue σ Wait.Reply (Option α)
  | done state value => done state (some value)
  | ask state wait resume =>
    if wait.milliseconds < limit then
      ask state wait fun reply state =>
        (resume reply state).within (limit - wait.milliseconds)
    else ask state ⟨limit⟩ fun _ state => done state none

/-- Yields also how long it took. -/
def timed (elapsed : Nat) : Dialogue σ Wait.Reply α → Dialogue σ Wait.Reply (α × Nat)
  | done state value => done state (value, elapsed)
  | ask state wait resume =>
    ask state wait fun reply state => (resume reply state).timed (elapsed + wait.milliseconds)

/-- Runs to the end, `tick` telling the state what time passes. -/
def run (tick : Nat → σ → σ) : Dialogue σ Wait.Reply α → α × σ
  | done state value => (value, state)
  | ask state wait resume => (resume () (tick wait.milliseconds state)).run tick

/-- The dialogue with every question answered by `answer`, which has a state of its own and takes
its time. -/
def servedBy {Q κ : Type} {R : Q → Type} (answer : (question : Q) → Timed κ (R question)) :
    Dialogue σ R α → κ → Dialogue (σ × κ) Wait.Reply α
  | done state value, inner => done (state, inner) value
  | ask state question resume, inner =>
    ((answer question inner).focus Prod.snd (fun inner whole => (whole.1, inner))
      (state, inner)).bind fun reply whole => (resume reply whole.1).servedBy answer whole.2

end Dialogue

namespace Timed

variable {σ α : Type}

/-- Gives up when the limit passes before the end. -/
def within (limit : Nat) (action : Timed σ α) : Timed σ (Option α) :=
  fun state => (action state).within limit

/-- Yields also how long it took. -/
def timed (action : Timed σ α) : Timed σ (α × Nat) := fun state => (action state).timed 0

end Timed

/-- An action with every question answered by `answer`. -/
def Action.servedBy {σ κ Q α : Type} {R : Q → Type} (answer : (question : Q) → Timed κ (R question))
    (action : Action σ R α) : Timed (σ × κ) α :=
  fun whole => (action whole.1).servedBy answer whole.2

end BeanBridge
