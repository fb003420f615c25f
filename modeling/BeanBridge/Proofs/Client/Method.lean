import BeanBridge.Client.Calls
import BeanBridge.Proofs.Service.Fitting

/-! The methods of a client as one.  Each makes the call that its request stands for and looks whether
the response is of the kind that belongs to the request; they differ in nothing else, except that no
call is made after the session was closed. -/

namespace BeanBridge

/-- What can be called on a client. -/
inductive Method where
  | ping
  | version
  | connect (config : Config)
  | disconnect
  | beanNames (pattern : String)
  | attributeNames (bean : String)
  | read (bean name : String)
  | readMany (bean : String) (names : List String)
  | queryMany (pattern : String) (names : List String)
  | stats
  /-- Any request, as it is. -/
  | call (request : Request)

namespace Client

theorem onClient_bind_apply {π α β : Type} (change : Client → α × Client)
    (next : α → Timed (Client × π) β) (whole : Client × π) :
    (onClient change >>= next) whole = next (change whole.1).1 ((change whole.1).2, whole.2) := rfl

/-- What a call comes to that is answered with a response. -/
def outcome : Response → Except ClientError Response
  | .error error => .error (.ofReply error)
  | response => .ok response

theorem conclude_answer (client : Client) (id : UInt64) (response : Response) :
    client.conclude id (.ok ⟨id, response⟩) = (outcome response, client) := by
  rw [conclude]
  simp only [ne_eq, not_true, if_false]
  cases response <;> rfl

theorem outcome_eq_ok {response : Response} (h : response.kind ≠ "error") :
    outcome response = .ok response := by
  cases response with
  | error error => exact absurd rfl h
  | _ => rfl

/-- The response, if it is of the kind that belongs to the request. -/
def fitting (request : Request) (response : Response) : Except ClientError Response :=
  if response.kind = request.answerKind then .ok response
  else .error (.unexpectedResponse request.method response.kind)

/-- A client that cannot be used asks nothing. -/
theorem call_of_isBroken {π : Type} (peer : Peer π) {client : Client}
    (hBroken : client.isBroken = true) (request : Request) (inner : π) :
    call peer request (client, inner) = .done (client, inner) (.error .closed) := by
  rw [call, Action.get_bind_apply]
  simp only [hBroken, if_true]
  rfl

end Client

namespace Method

/-- The request that a method makes, given the timeout of the client. -/
def request (timeout : Option Int64) : Method → Request
  | ping => .ping
  | version => .version
  | connect config => .connect config timeout
  | disconnect => .disconnect
  | beanNames pattern => .beanNames pattern timeout
  | attributeNames bean => .attributeNames bean timeout
  | read bean name => .read bean name timeout
  | readMany bean names => .readMany bean names timeout
  | queryMany pattern names => .queryMany pattern names timeout
  | stats => .stats
  | call request => request

/-- What a method makes of the response to its request. -/
def accept : Method → Response → Except ClientError Response
  | call _, response => .ok response
  | method, response => Client.fitting (method.request none) response

/-- What a method leaves behind. -/
def leave : Method → Client → Client
  | disconnect, client => { client with isBroken := true }
  | _, client => client

section perform

variable {π α : Type} (peer : Peer π)

/-- Calls a method; what it returns is shown as the response that it was taken from. -/
def perform : Method → Timed (Client × π) (Except ClientError Response)
  | ping => do return (← Client.ping peer).map fun _ => .pong
  | version => do return (← Client.version peer).map .version
  | connect config => do return (← Client.connect peer config).map fun _ => .connected
  | disconnect => do return (← Client.disconnect peer).map fun _ => .disconnected
  | beanNames pattern => do return (← Client.beanNames peer pattern).map .beanNames
  | attributeNames bean => do return (← Client.attributeNames peer bean).map .attributeNames
  | read bean name => do return (← Client.read peer bean name).map .attributes
  | readMany bean names => do return (← Client.readMany peer bean names).map .attributes
  | queryMany pattern names => do return (← Client.queryMany peer pattern names).map .attributes
  | stats => do return (← Client.stats peer).map .stats
  | call request => Client.call peer request

theorem map_callFor {request : Request} {select : Response → Option α} {make : α → Response}
    (h : ∀ response : Response, (select response).map make =
      if response.kind = request.answerKind then some response else none) (whole : Client × π) :
    (do return (← Client.callFor peer request select).map make :
        Timed (Client × π) (Except ClientError Response)) whole =
      (Client.call peer request whole).bind fun result after =>
        .done after (result.bind (Client.fitting request)) := by
  refine (Dialogue.bind_assoc (Client.call peer request whole) _ _).trans ?_
  congr 1
  funext result after
  cases result with
  | error error => rfl
  | ok response =>
    have hMake := h response
    show _ = Dialogue.done after (Client.fitting request response)
    rw [Client.fitting]
    cases hSelect : select response with
    | none =>
      rw [hSelect] at hMake
      split at hMake
      · cases hMake
      · rename_i hKind
        simp only [Action.pure_apply, hSelect, if_neg hKind, Dialogue.bind]
        rfl
    | some value =>
      rw [hSelect] at hMake
      split at hMake
      · rename_i hKind
        simp only [Action.pure_apply, hSelect, if_pos hKind, Dialogue.bind]
        rw [← Option.some.inj hMake]
        rfl
      · cases hMake

/-- A method makes its call, and accepts the response or not. -/
theorem perform_eq (method : Method) (whole : Client × π) :
    method.perform peer whole =
      (Client.call peer (method.request whole.1.callTimeout) whole).bind fun result after =>
        .done (method.leave after.1, after.2) (result.bind method.accept) := by
  cases method with
  | call request =>
    refine (Dialogue.bind_done_end (Client.call peer request whole)).symm.trans ?_
    congr 1
    funext result after
    cases result <;> rfl
  | disconnect =>
    refine (Dialogue.bind_assoc (Client.call peer .disconnect whole) _ _).trans ?_
    congr 1
    funext result after
    cases result with
    | error error => rfl
    | ok response => cases response <;> rfl
  | _ =>
    refine map_callFor peer ?_ whole
    intro response
    cases response <;> rfl

/-- A method of a client that cannot be used asks nothing. -/
theorem perform_of_isBroken {client : Client} (hBroken : client.isBroken = true) (method : Method)
    (inner : π) :
    method.perform peer (client, inner) =
      .done (method.leave client, inner) (.error .closed) := by
  rw [perform_eq, Client.call_of_isBroken peer hBroken]
  rfl

end perform

end Method

end BeanBridge
