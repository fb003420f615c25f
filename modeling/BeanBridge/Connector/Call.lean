import BeanBridge.BeanName.Basic
import BeanBridge.Config.Environment
import BeanBridge.Connector.Error
import BeanBridge.Timed
import BeanBridge.Value.Basic

/-! The calls that an endpoint answers. -/

namespace BeanBridge

/-- What is known of an attribute before it is read. -/
structure AttributeInfo where
  name : String
  /-- The declared type. -/
  type : String
  isReadable : Bool
  deriving DecidableEq

/-- What is known of a bean. -/
structure BeanInfo where
  className : String := ""
  description : String := ""
  attributes : List AttributeInfo := []
  deriving DecidableEq

/-- An open session, by number. -/
structure SessionHandle where
  number : Nat
  deriving DecidableEq

/-- A call to an endpoint. -/
inductive Call where
  /-- Opens a session with the address given. -/
  | connect (target : String) (environment : Environment)
  /-- The names of the beans that a pattern selects. -/
  | names (session : SessionHandle) (pattern : BeanName)
  | describe (session : SessionHandle) (bean : BeanName)
  | read (session : SessionHandle) (bean : BeanName) (name : String)
  /-- Several attributes at once. What the endpoint does not return is not in the answer. -/
  | readMany (session : SessionHandle) (bean : BeanName) (names : List String)
  | close (session : SessionHandle)

/-- What answers a call. -/
abbrev Call.Reply : Call → Type
  | connect .. => Except ConnectorError SessionHandle
  | names .. => Except ConnectorError (List BeanName)
  | describe .. => Except ConnectorError BeanInfo
  | read .. => Except ConnectorError Value
  | readMany .. => Except ConnectorError (List (String × Value))
  | close .. => Except ConnectorError Unit

/-- How a computation that may break down ended. -/
inductive Outcome (α : Type) where
  | value (value : α)
  /-- It broke down, with a message or without one. -/
  | crash (message : Option String)

/-- Changes the value, if there is one. -/
def Outcome.map {α β : Type} (change : α → β) : Outcome α → Outcome β
  | value v => value (change v)
  | crash message => crash message

/-- What becomes of the value, or else of the breakdown. -/
def Outcome.elim {α β : Type} (onValue : α → β) (onCrash : Option String → β) : Outcome α → β
  | value v => onValue v
  | crash message => onCrash message

/-- A way to answer calls, with a state of its own and in its own time. -/
abbrev Connector (κ : Type) : Type := (call : Call) → Timed κ (Outcome call.Reply)

namespace Dialogue

variable {σ κ α : Type}

/-- The dialogue with every call answered by a connector.  Where the connector breaks down, so does
the whole. -/
def answeredBy (connector : Connector κ) :
    Dialogue σ Call.Reply α → κ → Dialogue (σ × κ) Wait.Reply (Outcome α)
  | done state value, inner => done (state, inner) (.value value)
  | ask state call resume, inner =>
    ((connector call inner).focus Prod.snd (fun inner whole => (whole.1, inner))
      (state, inner)).bind fun outcome whole =>
        outcome.elim (fun reply => (resume reply whole.1).answeredBy connector whole.2)
          fun message => done whole (.crash message)

end Dialogue

/-- An action with every call answered by a connector. -/
def Action.answeredBy {σ κ α : Type} (connector : Connector κ) (action : Action σ Call.Reply α) :
    Timed (σ × κ) (Outcome α) :=
  fun whole => (action whole.1).answeredBy connector whole.2

end BeanBridge
