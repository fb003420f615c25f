import BeanBridge.Proofs.Client.Exchange
import BeanBridge.Proofs.Client.Method

/-! A client at the stream of the service is as good as the handler itself.  Each of its calls comes
to what the handler answers to the request, and leaves the handler as the request leaves it. -/

namespace BeanBridge

open BeanBridge.Frame

/-- The failure of an operation as the client returns it. -/
def ClientError.ofFailure : Failure → ClientError
  | .connection message => .connection message
  | .operation message cause stacktrace => .jmx message cause stacktrace

namespace Client

/-- The client can make calls, nothing is on its way to it or from it, and it waits for answers as
long as they take. -/
structure Ready (client : Client) : Prop where
  usable : client.isBroken = false
  decoder : client.decoder = {}
  unsent : client.unsent = .empty
  patient : client.responseTimeout = none

theorem Ready.begin {client : Client} (h : client.Ready) : client.begin.Ready :=
  ⟨h.usable, h.decoder, h.unsent, h.patient⟩

/-- The time that passes at the other end of the stream. -/
def passing {π : Type} (tick : Nat → π → π) (milliseconds : Nat) (whole : Client × π) :
    Client × π := (whole.1, tick milliseconds whole.2)

section call

variable {κ : Type} (connector : Connector κ) {client : Client} {request : Request}
  {response : Response} {handler after : Handler κ}
  (hReady : client.Ready)
  (hRequest : (RequestFrame.encode ⟨client.nextId, request⟩).size ≤ maxSize)
  (hResponse : (ResponseFrame.encode ⟨client.nextId, response⟩).size ≤ maxSize)
  (hAnswer : (Handler.answer connector request handler).run Handler.tick = (response, after))
include hReady hRequest hResponse hAnswer

theorem run_call (cuts : List Nat) :
    ∃ rest, (call (ServerPeer.peer connector) request (client, atRest handler cuts)).run
        (passing ServerPeer.tick) =
      (outcome response, client.begin, answered request after rest) := by
  have hBegun := hReady.begin
  obtain ⟨rest, hHeld⟩ :=
    held_exchange connector hRequest hResponse hAnswer hBegun.decoder hBegun.unsent cuts
  have hExchange : (exchangeInTime (ServerPeer.peer connector) client.responseTimeout
      ⟨client.nextId, request⟩ (client.begin, atRest handler cuts)).run (passing ServerPeer.tick) =
        (.ok ⟨client.nextId, response⟩, client.begin, answered request after rest) := by
    rw [hReady.patient]
    exact (Dialogue.run_servedBy _ _).trans hHeld
  refine ⟨rest, ?_⟩
  rw [call, Action.get_bind_apply]
  simp only [hReady.usable, Bool.false_eq_true, if_false, onClient_bind_apply]
  rw [Action.run_bind hExchange]
  simp only [onClient, conclude_answer, Dialogue.run]

end call

theorem answerKind_ne_error (request : Request) : request.answerKind ≠ "error" := by
  cases request <;> exact of_decide_eq_false rfl

/-- A response that fits the request is accepted by the method that makes the request. -/
theorem accept_outcome {method : Method} {timeout : Option Int64} {response : Response}
    (h : (method.request timeout).Fits response) :
    (outcome response).bind method.accept = outcome response := by
  rcases h with hKind | ⟨failure, rfl⟩
  · rw [outcome_eq_ok (hKind ▸ answerKind_ne_error (method.request timeout))]
    cases method with
    | call request => rfl
    | _ => exact if_pos hKind
  · rfl

section perform

variable {κ : Type} (connector : Connector κ) {client : Client} {method : Method}
  {response : Response} {handler after : Handler κ}
  (hReady : client.Ready)
  (hRequest : (RequestFrame.encode ⟨client.nextId, method.request client.callTimeout⟩).size ≤ maxSize)
  (hResponse : (ResponseFrame.encode ⟨client.nextId, response⟩).size ≤ maxSize)
  (hAnswer : (Handler.answer connector (method.request client.callTimeout) handler).run
    Handler.tick = (response, after))
include hReady hRequest hResponse hAnswer

/-- A method returns what the handler answers to its request. -/
theorem run_perform (cuts : List Nat) :
    ∃ next rest, (method.perform (ServerPeer.peer connector) (client, atRest handler cuts)).run
        (passing ServerPeer.tick) =
      (outcome response, next, answered (method.request client.callTimeout) after rest) ∧
      (method.request client.callTimeout ≠ .disconnect → next = client.begin) := by
  have hFits : (method.request client.callTimeout).Fits response := by
    have hYields := (Handler.yields_answer connector (method.request client.callTimeout) handler).run
      Handler.tick
    rwa [hAnswer] at hYields
  obtain ⟨rest, hCall⟩ := run_call connector hReady hRequest hResponse hAnswer cuts
  refine ⟨method.leave client.begin, rest, ?_, ?_⟩
  · rw [Method.perform_eq, Dialogue.run_bind, hCall]
    simp only [Dialogue.run, accept_outcome hFits]
  · intro hOther
    cases method with
    | disconnect => exact absurd rfl hOther
    | _ => rfl

end perform

/-- Makes calls one after another, each with the timeout set for it. -/
def performAll {π : Type} (peer : Peer π) :
    List (Option Int64 × Method) → Timed (Client × π) (List (Except ClientError Response))
  | [] => return []
  | (timeout, method) :: calls => do
    onClient fun client => ((), { client with callTimeout := timeout })
    let result ← method.perform peer
    let results ← performAll peer calls
    return result :: results

theorem answered_of_ne {κ : Type} {request : Request} (h : request ≠ .disconnect)
    (handler : Handler κ) (cuts : List Nat) :
    answered request handler cuts = atRest handler cuts := by
  cases request with
  | disconnect => exact absurd rfl h
  | _ => rfl

/-- The requests that calls make. -/
def requestsOf (calls : List (Option Int64 × Method)) : List Request :=
  calls.map fun call => call.2.request call.1

/-- Each of some values with its number, the first having this one. -/
def numbered {α : Type} (id : UInt64) : List α → List (UInt64 × α)
  | [] => []
  | value :: values => (id, value) :: numbered (id + 1) values

section sequence

variable {κ : Type} (connector : Connector κ)

/-- Calls made one after another return what the handler answers to their requests. -/
theorem run_performAll {calls : List (Option Int64 × Method)} {client : Client} {cuts : List Nat}
    {handler after : Handler κ} {responses : List Response} (hReady : client.Ready)
    (hLast : .disconnect ∉ (requestsOf calls).dropLast)
    (hRequests : ∀ entry ∈ numbered client.nextId (requestsOf calls),
      (RequestFrame.encode ⟨entry.1, entry.2⟩).size ≤ maxSize)
    (hResponses : ∀ entry ∈ numbered client.nextId responses,
      (ResponseFrame.encode ⟨entry.1, entry.2⟩).size ≤ maxSize)
    (hDirect : ((requestsOf calls).mapM (Handler.answer connector) handler).run Handler.tick =
      (responses, after)) :
    ∃ next peer, (performAll (ServerPeer.peer connector) calls (client, atRest handler cuts)).run
        (passing ServerPeer.tick) = (responses.map outcome, next, peer) ∧
      peer.server.handler = after := by
  induction calls generalizing client cuts handler responses with
  | nil =>
    obtain ⟨rfl, rfl⟩ := Prod.mk.inj hDirect
    exact ⟨client, atRest handler cuts, rfl, rfl⟩
  | cons call calls ih =>
    obtain ⟨timeout, method⟩ := call
    rcases hAnswer : (Handler.answer connector (method.request timeout) handler).run Handler.tick with
      ⟨response, middle⟩
    rcases hLater : ((requestsOf calls).mapM (Handler.answer connector) middle).run Handler.tick with
      ⟨later, last⟩
    obtain ⟨rfl, rfl⟩ : response :: later = responses ∧ last = after := by
      have hRequests : requestsOf ((timeout, method) :: calls) =
        method.request timeout :: requestsOf calls := rfl
      rw [hRequests, Action.run_mapM_cons, hAnswer, hLater] at hDirect
      exact Prod.mk.inj hDirect
    obtain ⟨hRequest, hRequests⟩ := List.forall_mem_cons.mp hRequests
    obtain ⟨hResponse, hResponses⟩ := List.forall_mem_cons.mp hResponses
    let setUp : Client := { client with callTimeout := timeout }
    have hSetUp : setUp.Ready := ⟨hReady.usable, hReady.decoder, hReady.unsent, hReady.patient⟩
    obtain ⟨next, rest, hPerform, hNext⟩ :=
      run_perform connector hSetUp hRequest hResponse hAnswer cuts
    rw [performAll, onClient_bind_apply]
    simp only
    rw [Action.run_bind hPerform]
    cases calls with
    | nil =>
      obtain ⟨rfl, rfl⟩ := Prod.mk.inj hLater
      exact ⟨next, _, rfl, rfl⟩
    | cons call calls =>
      have hLast : .disconnect ∉ method.request timeout :: (requestsOf (call :: calls)).dropLast :=
        hLast
      obtain ⟨hOther, hLast⟩ := List.ne_and_not_mem_of_not_mem_cons hLast
      obtain rfl := hNext (Ne.symm hOther)
      obtain ⟨next, peer, hPerformed, hHandler⟩ :=
        @ih setUp.begin rest middle later hSetUp.begin hLast hRequests hResponses hLater
      refine ⟨next, peer, ?_, hHandler⟩
      rw [answered_of_ne (Ne.symm hOther), Action.run_bind hPerformed, Action.run_pure,
        List.map_cons]

theorem fits_mapM (requests : List Request) (handler : Handler κ) :
    ∀ response ∈ ((requests.mapM (Handler.answer connector) handler).run Handler.tick).1,
      ∃ request : Request, request.Fits response := by
  induction requests generalizing handler with
  | nil => nofun
  | cons request requests ih =>
    rw [Action.run_mapM_cons]
    refine List.forall_mem_cons.mpr ⟨?_, ih _⟩
    exact ⟨request, (Handler.yields_answer connector request handler).run Handler.tick⟩

/-- What is returned is a response, or the failure of an operation; nothing is wrong with the exchange
itself. -/
def Reported : Except ClientError Response → Prop
  | .ok _ | .error (.connection _) | .error (.jmx ..) => True
  | .error _ => False

theorem reported_outcome {request : Request} {response : Response} (h : request.Fits response) :
    Reported (outcome response) := by
  rcases h with hKind | ⟨failure, rfl⟩
  · rw [outcome_eq_ok (hKind ▸ answerKind_ne_error request)]
    trivial
  · cases failure <;> trivial

/-- A client at the stream of the service is as good as the handler.  Whatever the connector does and
however the stream carries the bytes, each call returns what the handler answers when it is asked the
same requests directly, up to and including a request to close the session; failures keep what they
say; and no call fails for any other reason. -/
theorem calls_refine_handler {calls : List (Option Int64 × Method)} (cuts : List Nat)
    {handler after : Handler κ} {responses : List Response}
    (hLast : .disconnect ∉ (requestsOf calls).dropLast)
    (hDirect : ((requestsOf calls).mapM (Handler.answer connector) handler).run Handler.tick =
      (responses, after))
    (hRequests : ∀ entry ∈ numbered 1 (requestsOf calls),
      (RequestFrame.encode ⟨entry.1, entry.2⟩).size ≤ maxSize)
    (hResponses : ∀ entry ∈ numbered 1 responses,
      (ResponseFrame.encode ⟨entry.1, entry.2⟩).size ≤ maxSize) :
    (∃ client peer, (performAll (ServerPeer.peer connector) calls
          ({}, { server := { handler }, cuts })).run (passing ServerPeer.tick) =
        (responses.map outcome, client, peer) ∧ peer.server.handler = after) ∧
      (∀ result ∈ responses.map outcome, Reported result) ∧
      ∀ failure : Failure,
        outcome (Handler.respond (.error failure)) = .error (ClientError.ofFailure failure) := by
  have hReady : Ready {} := ⟨rfl, rfl, rfl, rfl⟩
  refine ⟨run_performAll connector hReady hLast hRequests hResponses hDirect, ?_, ?_⟩
  · intro result hResult
    obtain ⟨response, hResponse, rfl⟩ := List.mem_map.mp hResult
    have hFits := fits_mapM connector (requestsOf calls) handler
    rw [hDirect] at hFits
    obtain ⟨request, hFit⟩ := hFits response hResponse
    exact reported_outcome hFit
  · intro failure
    cases failure <;> rfl

/-- A sign of life, a session that cannot be opened, and the end, over a stream that carries a few
bytes at a time. -/
theorem calls_refine_handler_without_endpoint :
    let calls : List (Option Int64 × Method) :=
      [(none, .ping), (some 5, .connect { host := "localhost" }), (none, .disconnect)]
    let connector : Connector Unit := fun _ => pure (.crash none)
    let direct := ((requestsOf calls).mapM (Handler.answer connector) (.start ())).run Handler.tick
    ∃ client peer, (performAll (ServerPeer.peer connector) calls
        ({}, { server := { handler := .start () }, cuts := [3, 0, 7, 1, 20] })).run
          (passing ServerPeer.tick) = (direct.1.map outcome, client, peer) ∧
      peer.server.handler = direct.2 := by
  intro calls connector direct
  have hRequests : ∀ entry ∈ numbered 1 (requestsOf calls),
      (RequestFrame.encode ⟨entry.1, entry.2⟩).size ≤ maxSize := by decide +kernel
  have hResponses : ∀ entry ∈ numbered 1 direct.1,
      (ResponseFrame.encode ⟨entry.1, entry.2⟩).size ≤ maxSize := by decide +kernel
  exact (calls_refine_handler connector [3, 0, 7, 1, 20] (by decide) rfl hRequests hResponses).1

end sequence

end Client

end BeanBridge
