import BeanBridge.Connector.Call
import BeanBridge.Proofs.Dialogue

/-! Notes of the calls that a connector answers.  Taking notes changes nothing: whoever does not look
at them finds the dialogue that is held without them. -/

namespace BeanBridge

def ConnectorError.of? {α : Type} : Except ConnectorError α → Option ConnectorError
  | .error error => some error
  | .ok _ => none

/-- The failure that is the answer. -/
def Call.failure? : (call : Call) → call.Reply → Option ConnectorError
  | connect .. | names .. | describe .. | read .. | readMany .. | close _ => ConnectorError.of?

/-- A call as it was made, or as it was answered, and what answers calls as it was then. -/
inductive Note (κ : Type) where
  | asked (inner : κ) (call : Call)
  | answered (before after : κ) (call : Call) (outcome : Outcome call.Reply)

/-- The notes, the latest first, beside what answers calls. -/
abbrev Noted (κ : Type) : Type := List (Note κ) × κ

/-- The connector with notes of all calls. -/
def Connector.noted {κ : Type} (connector : Connector κ) : Connector (Noted κ) :=
  fun call (notes, inner) =>
    ((connector call inner).focus Prod.snd (fun inner noted => (noted.1, inner))
      (.asked inner call :: notes, inner)).bind fun outcome noted =>
        .done (.answered inner noted.2 call outcome :: noted.1, noted.2) outcome

/-- The dialogue as it looks without the notes. -/
def Dialogue.unnoted {σ κ α : Type} :
    Dialogue (σ × Noted κ) Wait.Reply α → Dialogue (σ × κ) Wait.Reply α :=
  Dialogue.seen (fun whole => (whole.1, whole.2.2)) fun part whole => (part.1, whole.2.1, part.2)

/-- Taking notes changes nothing about a dialogue whose calls a connector answers. -/
theorem Dialogue.unnoted_answeredBy {σ κ α : Type} (connector : Connector κ)
    (dialogue : Dialogue σ Call.Reply α) (notes : List (Note κ)) (inner : κ) :
    (dialogue.answeredBy connector.noted (notes, inner)).unnoted =
      dialogue.answeredBy connector inner := by
  induction dialogue generalizing notes inner with
  | done state value => rfl
  | ask state call resume ih =>
    -- An inner induction on the answer of the connector, which waits before it is there.
    have hReply (reply : Dialogue κ Wait.Reply (Outcome call.Reply)) (before : κ) (state : σ)
        (outer : Noted κ) (notes : List (Note κ)) (inner : κ) :
        (((((reply.focus Prod.snd (fun inner noted => (noted.1, inner)) (notes, inner)).bind
          fun outcome noted => .done (.answered before noted.2 call outcome :: noted.1, noted.2)
            outcome).focus Prod.snd (fun inner whole => (whole.1, inner))
              (state, outer)).bind fun outcome whole =>
                outcome.elim
                  (fun reply => (resume reply whole.1).answeredBy connector.noted whole.2)
                  fun message => .done whole (.crash message)).unnoted :
                    Dialogue (σ × κ) Wait.Reply (Outcome α)) =
          (reply.focus Prod.snd (fun inner whole => (whole.1, inner)) (state, inner)).bind
            fun outcome whole =>
              outcome.elim (fun reply => (resume reply whole.1).answeredBy connector whole.2)
                fun message => .done whole (.crash message) := by
      induction reply generalizing state outer notes inner with
      | done after outcome =>
        cases outcome with
        | value reply => exact ih reply state _ after
        | crash message => rfl
      | ask now wait resume ihReply =>
        simp only [focus, bind, unnoted, seen]
        congr 1
        funext reply part
        exact ihReply reply part.2 part.1 (notes, part.2) notes part.2
    exact hReply (connector call inner) inner state (notes, inner) _ inner

end BeanBridge
