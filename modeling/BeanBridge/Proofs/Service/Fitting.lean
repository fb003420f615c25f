import BeanBridge.Proofs.Dialogue
import BeanBridge.Service.Handler

/-! The kinds of responses.  Whatever the connector does, a request is answered by the kind of
response that belongs to it or by the failure of an operation, never by a complaint about the
request. -/

namespace BeanBridge

/-- The kind of response that an operation has when it succeeds. -/
def Operation.kind : Operation → String
  | connect _ => "connected"
  | disconnect => "disconnected"
  | beanNames _ => "mbeanNames"
  | attributeNames _ => "attributeNames"
  | read .. | readMany .. | queryMany .. => "attributes"

/-- The kind of response that a request has when it succeeds. -/
def Request.answerKind : Request → String
  | ping => "pong"
  | version => "version"
  | connect .. => "connected"
  | disconnect => "disconnected"
  | beanNames .. => "mbeanNames"
  | attributeNames .. => "attributeNames"
  | read .. | readMany .. | queryMany .. => "attributes"
  | stats => "internalStats"

/-- What a result holds, if it is one, is a response of this kind. -/
def HoldsKind (kind : String) (result : Except Failure Response) : Prop :=
  ∀ response, result = .ok response → response.kind = kind

/-- The response is of the kind that belongs to the request, or tells the failure of an operation. -/
def Request.Fits (request : Request) (response : Response) : Prop :=
  response.kind = request.answerKind ∨ ∃ failure : Failure, response = .error failure.replyError

section HoldsKind

variable {kind : String}

theorem holdsKind_error (failure : Failure) : HoldsKind kind (.error failure) := nofun

theorem holdsKind_map {α : Type} {make : α → Response} (h : ∀ value, (make value).kind = kind)
    (result : Except Failure α) : HoldsKind kind (result.map make) := by
  rintro response hResult
  cases result with
  | error failure => nomatch hResult
  | ok value =>
    obtain rfl : make value = response := Except.ok.inj hResult
    exact h value

end HoldsKind

theorem Dialogue.Yields.answeredBy {σ κ α : Type} {P : α → Prop} (connector : Connector κ)
    {dialogue : Dialogue σ Call.Reply α} (h : dialogue.Yields P) (inner : κ) :
    (dialogue.answeredBy connector inner).Yields fun outcome =>
      ∀ value, outcome = .value value → P value := by
  induction dialogue generalizing inner with
  | done state value =>
    rintro found hFound
    obtain rfl : value = found := Outcome.value.inj hFound
    exact h
  | ask state call resume ih =>
    rw [Dialogue.answeredBy]
    refine (Dialogue.yields_true _).bind fun outcome whole _ => ?_
    cases outcome with
    | value reply => exact ih reply whole.1 (h reply whole.1) whole.2
    | crash message => exact nofun

theorem Operation.yields_act (operation : Operation) (session : Session) :
    (operation.act session).Yields (HoldsKind operation.kind) := by
  have hMap {α : Type} {kind : String} {make : α → Response} (act : Session.Act (Except Failure α))
      (h : ∀ value, (make value).kind = kind) :
      ((do return (← act).map make : Session.Act (Except Failure Response)) session).Yields
        (HoldsKind kind) :=
    (Dialogue.yields_true (act session)).bind fun result _ _ => holdsKind_map h result
  cases operation with
  | connect config => exact hMap _ fun _ => rfl
  | disconnect => exact hMap _ fun _ => rfl
  | beanNames pattern => exact hMap _ fun _ => rfl
  | attributeNames bean => exact hMap _ fun _ => rfl
  | read bean name => exact hMap _ fun _ => rfl
  | readMany bean names =>
    refine (Dialogue.yields_true _).bind fun collected _ _ => ?_
    show HoldsKind _ _
    cases collected.failure with
    | none =>
      rintro response ⟨⟩
      rfl
    | some failure => exact holdsKind_error failure
  | queryMany pattern names => exact hMap _ fun _ => rfl

section Executor

variable {σ : Type} {kind : String}

/-- What a job may come to if its results are to be of a kind. -/
abbrev OutcomeHolds (kind : String) (outcome : Outcome (Except Failure Response)) : Prop :=
  ∀ result, outcome = .value result → HoldsKind kind result

theorem holdsKind_delivered {outcome : Outcome (Except Failure Response)}
    (h : OutcomeHolds kind outcome) : HoldsKind kind (Executor.delivered outcome) := by
  cases outcome with
  | value result => exact h result rfl
  | crash message => exact holdsKind_error _

theorem Executor.yields_call {submission : Submission σ Response}
    (h : ∀ state, (submission.job state).Yields (OutcomeHolds kind)) (state : σ) :
    (Executor.call submission state).Yields (HoldsKind kind) := by
  rw [Executor.call, Executor.perform]
  split
  · exact (h state).bind fun outcome _ hOutcome => holdsKind_delivered hOutcome
  · simp only
    split
    · exact holdsKind_error _
    · refine ((h state).within _).bind fun found _ hFound => ?_
      cases found with
      | none => exact holdsKind_error _
      | some outcome => exact holdsKind_delivered (hFound outcome rfl)

end Executor

section Handler

variable {κ : Type} (connector : Connector κ)

theorem Fetcher.yields_call {kind : String} {operation : Except Failure Operation}
    (h : ∀ known, operation = .ok known → known.kind = kind) (timeout : Int64)
    (endpoint : Endpoint κ) :
    (Fetcher.call connector timeout operation endpoint).Yields (HoldsKind kind) := by
  cases operation with
  | error failure => exact holdsKind_error failure
  | ok operation =>
    rw [← h operation rfl]
    exact Executor.yields_call (fun endpoint => Dialogue.Yields.answeredBy connector
      (operation.yields_act endpoint.1) endpoint.2) endpoint

theorem Fetcher.kind_onName {kind : String} {make : BeanName → Operation}
    (h : ∀ name, (make name).kind = kind) (text : String) :
    ∀ known, Fetcher.onName text make = .ok known → known.kind = kind := by
  intro known hKnown
  rw [Fetcher.onName] at hKnown
  cases hName : BeanName.parseForOperation text with
  | error failure =>
    rw [hName] at hKnown
    nomatch hKnown
  | ok name =>
    rw [hName] at hKnown
    obtain rfl : make name = known := Except.ok.inj hKnown
    exact h name

theorem Fetcher.yields_drain (endpoint : Endpoint κ) :
    (Fetcher.drain endpoint).Yields (HoldsKind "internalStats") := by
  rw [Fetcher.drain, Action.bind_apply]
  refine Dialogue.Yields.bind (Dialogue.yields_true (Action.get endpoint)) fun found endpoint _ => ?_
  obtain ⟨session, inner⟩ := found
  simp only
  cases session.stats.drain? with
  | none => exact holdsKind_error _
  | some drained =>
    rintro response ⟨⟩
    rfl

theorem Request.fits_respond {request : Request} {result : Except Failure Response}
    (h : HoldsKind request.answerKind result) : request.Fits (Handler.respond result) := by
  cases result with
  | error failure => exact .inr ⟨failure, rfl⟩
  | ok response => exact .inl (h response rfl)

theorem Handler.yields_perform {request : Request} {operation : Except Failure Operation}
    (h : ∀ known, operation = .ok known → known.kind = request.answerKind)
    (timeout : Option Int64) (handler : Handler κ) :
    (Handler.perform connector timeout operation handler).Yields request.Fits := by
  refine Dialogue.Yields.bind (Dialogue.yields_true (Action.get handler)) fun usual handler _ => ?_
  refine ((Fetcher.yields_call connector h _ handler.endpoint).focus handler).bind ?_
  exact fun result _ hResult => request.fits_respond hResult

theorem Handler.yields_performOnName {request : Request} {make : BeanName → Operation}
    (h : ∀ name, (make name).kind = request.answerKind) (text : String) (timeout : Option Int64)
    (handler : Handler κ) :
    (Handler.perform connector timeout (Fetcher.onName text make) handler).Yields request.Fits :=
  Handler.yields_perform connector (Fetcher.kind_onName h text) timeout handler

/-- The response to a request fits it. -/
theorem Handler.yields_answer (request : Request) (handler : Handler κ) :
    (Handler.answer connector request handler).Yields request.Fits := by
  cases request with
  | ping => exact .inl rfl
  | version => exact .inl rfl
  | connect config timeout =>
    exact Handler.yields_perform connector (by rintro known ⟨⟩; rfl) timeout _
  | disconnect => exact Handler.yields_perform connector (by rintro known ⟨⟩; rfl) none handler
  | beanNames pattern timeout =>
    exact Handler.yields_performOnName connector (fun _ => rfl) pattern timeout handler
  | attributeNames bean timeout =>
    exact Handler.yields_performOnName connector (fun _ => rfl) bean timeout handler
  | read bean name timeout =>
    exact Handler.yields_performOnName connector (fun _ => rfl) bean timeout handler
  | readMany bean names timeout =>
    exact Handler.yields_performOnName connector (fun _ => rfl) bean timeout handler
  | queryMany pattern names timeout =>
    exact Handler.yields_performOnName connector (fun _ => rfl) pattern timeout handler
  | stats =>
    refine ((Dialogue.Yields.focus ?_ handler).bind fun result _ hResult =>
      Request.fits_respond hResult)
    exact Fetcher.yields_drain handler.endpoint

end Handler

end BeanBridge
