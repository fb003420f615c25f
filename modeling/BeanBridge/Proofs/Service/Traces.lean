import BeanBridge.Connector.Scripted
import BeanBridge.Proofs.Session.Traces
import BeanBridge.Service.Handler

/-! Stack traces in responses.  A service with a connector goes the same way as the service with the
connector whose errors have no stack traces: it makes the same calls and is left in the same state.
While the settings in force do not ask for stack traces, its responses are the same too, but for the
stack traces of calls that the endpoint refused. -/

namespace BeanBridge

/-! ### The connector without its stack traces -/

/-- Of the connector's stack traces only these may show: those of the refusals that are reported with
their traces. -/
def Connector.Shows {κ : Type} (shows : String → Prop) (connector : Connector κ) : Prop :=
  ∀ call inner, (connector call inner).Yields
    fun outcome => ∀ reply, outcome = .value reply → call.Shows shows reply

theorem Connector.inStep_untraced {κ : Type} {shows : String → Prop} {config : Option Config}
    {connector : Connector κ} (h : connector.Shows shows) :
    connector.InStep (Session.tracing shows config) Eq connector.untraced := by
  rintro call _ rfl inner _ rfl
  have hCourse : ∀ dialogue : Dialogue κ Wait.Reply (Outcome call.Reply),
      (dialogue.Yields fun outcome => ∀ reply, outcome = .value reply → call.Shows shows reply) →
      dialogue.InStep (.timed Eq) (Outcome.Akin (Call.Alike shows call call))
        (dialogue.bind fun outcome inner => .done inner (outcome.map call.untraced)) := by
    intro dialogue
    induction dialogue with
    | done inner outcome =>
      intro hYields
      refine .done rfl ?_
      cases outcome with
      | value reply => exact .untraced call (hYields reply rfl)
      | crash message => exact rfl
    | ask inner wait resume ih =>
      intro hYields
      refine .ask rfl rfl ?_
      rintro reply _ later _ - rfl
      exact ih reply later (hYields reply later)
  exact hCourse (connector call inner) (h call inner)

/-- Taking the records asks nothing and leaves the connection alone. -/
theorem Fetcher.drain_eq {κ : Type} (endpoint : Endpoint κ) :
    ∃ result after, drain endpoint = .done after result ∧
      (result = .error Fault.statsOff.failure ∨ ∃ records, result = .ok (.stats records)) ∧
      after.1.connection.config = endpoint.1.connection.config := by
  obtain ⟨session, inner⟩ := endpoint
  cases hDrain : session.stats.drain? with
  | none =>
    refine ⟨.error Fault.statsOff.failure, (session, inner), ?_, .inl rfl, rfl⟩
    rw [drain, Action.get_bind_apply]
    simp only [hDrain]
    rfl
  | some drained =>
    refine ⟨.ok (.stats drained.1), ({ session with stats := drained.2 }, inner), ?_,
      .inr ⟨_, rfl⟩, rfl⟩
    rw [drain, Action.get_bind_apply]
    simp only [hDrain]
    rfl

/-! ### Requests -/

/-- The settings in force after a request: the latest to connect with. -/
def Request.settings (request : Request) (before : Option Config) : Option Config :=
  match request with
  | .connect config _ => some config
  | _ => before

namespace Handler

variable {κ : Type} {shows : String → Prop} {connector : Connector κ}

/-- The settings in force. -/
def settings (handler : Handler κ) : Option Config := handler.endpoint.1.connection.config

/-- The same handler with these settings. -/
abbrev tracing (config : Option Config) : Kinship (Handler κ) Wait.Reply :=
  .timed fun handler handler' => handler = handler' ∧ handler.settings = config

/-- The courses of the handler with the connector and with the untraced one are in step, and the
responses alike. -/
def AlikeAt (shows : String → Prop) (config : Option Config)
    (act act' : Timed (Handler κ) Response) (handler : Handler κ) : Prop :=
  (act handler).InStep (tracing config) (Response.Alike shows (Config.IsQuiet config)) (act' handler)

theorem alike_respond {config : Option Config} {result result' : Except Failure Response}
    (h : Response.ResultsAlike shows config result result') :
    (respond result).Alike shows (Config.IsQuiet config) (respond result') := by
  rcases result with failure | response <;> rcases result' with failure' | response'
  · exact .error h
  · exact h.elim
  · exact h.elim
  · exact h

theorem alike_perform (hShows : connector.Shows shows) (timeout : Option Int64)
    (operation : Operation) (handler : Handler κ) :
    AlikeAt shows (operation.settings handler.settings)
      (perform connector timeout (.ok operation))
      (perform connector.untraced timeout (.ok operation)) handler := by
  have hJob := (operation.alike_course shows handler.endpoint.1).answeredBy
    (Connector.inStep_untraced hShows) (Eq.refl handler.endpoint.2)
  have hCall : (Fetcher.call connector (timeout.getD handler.defaultTimeout) (.ok operation)
      handler.endpoint).InStep
        (Session.tracing shows (operation.settings handler.settings)).answered
        (Response.ResultsAlike shows (operation.settings handler.settings))
        (Fetcher.call connector.untraced (timeout.getD handler.defaultTimeout) (.ok operation)
          handler.endpoint) := by
    refine Executor.inStep_call (fun message => ?_) (Fetcher.submission connector _ operation)
      (Fetcher.submission connector.untraced _ operation) rfl hJob
    exact ⟨rfl, rfl, rfl, fun hSome => absurd rfl hSome⟩
  have hOnEndpoint : (onEndpoint (Fetcher.call connector (timeout.getD handler.defaultTimeout)
      (.ok operation)) handler).InStep (tracing (operation.settings handler.settings))
        (Response.ResultsAlike shows (operation.settings handler.settings))
        (onEndpoint (Fetcher.call connector.untraced (timeout.getD handler.defaultTimeout)
          (.ok operation)) handler) := by
    refine hCall.focus ?_ ?_ ?_
    · rintro later _ ⟨rfl, hLater⟩
      exact ⟨⟨rfl, hLater⟩, rfl⟩
    · rintro ⟨session, inner⟩ ⟨_, _⟩ later _ ⟨⟨rfl, hSession⟩, rfl⟩ ⟨rfl, -⟩
      exact ⟨rfl, hSession⟩
    · rintro ⟨session, inner⟩ ⟨_, _⟩ ⟨⟨rfl, hSession⟩, rfl⟩
      exact ⟨rfl, hSession⟩
  exact hOnEndpoint.bind fun result result' after after' hResult hAfter =>
    .done hAfter (alike_respond hResult)

/-- A request that names no bean is refused before anything is asked. -/
theorem alike_performOnName (hShows : connector.Shows shows) (timeout : Option Int64)
    (text : String) (make : BeanName → Operation)
    (hMake : ∀ name before, (make name).settings before = before) (handler : Handler κ) :
    AlikeAt shows handler.settings
      (perform connector timeout (Fetcher.onName text make))
      (perform connector.untraced timeout (Fetcher.onName text make)) handler := by
  rw [Fetcher.onName, BeanName.parseForOperation]
  cases BeanName.parse text with
  | ok name =>
    have hPerform := alike_perform hShows timeout (make name) handler
    rw [hMake] at hPerform
    exact hPerform
  | error flaw =>
    refine .done ⟨rfl, rfl⟩ (.error ?_)
    exact ⟨rfl, rfl, rfl, fun hSome => absurd rfl hSome⟩

theorem alike_answer (hShows : connector.Shows shows) (request : Request) (handler : Handler κ) :
    AlikeAt shows (request.settings handler.settings) (answer connector request)
      (answer connector.untraced request) handler := by
  cases request with
  | ping => exact .done ⟨rfl, rfl⟩ (.plain (by simp [Response.kind]))
  | version => exact .done ⟨rfl, rfl⟩ (.plain (by simp [Response.kind]))
  | connect config timeout => exact alike_perform hShows timeout (.connect config) _
  | disconnect => exact alike_perform hShows none .disconnect handler
  | beanNames pattern timeout =>
    exact alike_performOnName hShows timeout pattern _ (fun _ _ => rfl) handler
  | attributeNames bean timeout =>
    exact alike_performOnName hShows timeout bean _ (fun _ _ => rfl) handler
  | read bean name timeout =>
    exact alike_performOnName hShows timeout bean _ (fun _ _ => rfl) handler
  | readMany bean names timeout =>
    exact alike_performOnName hShows timeout bean _ (fun _ _ => rfl) handler
  | queryMany pattern names timeout =>
    exact alike_performOnName hShows timeout pattern _ (fun _ _ => rfl) handler
  | stats =>
    obtain ⟨result, after, hDrain, hResult, hAfter⟩ := Fetcher.drain_eq handler.endpoint
    have hAnswer (connector : Connector κ) : answer connector .stats handler =
        .done { handler with endpoint := after } (respond result) := by
      show ((Fetcher.drain handler.endpoint).focus _ _ handler).bind _ = _
      rw [hDrain]
      rfl
    rw [AlikeAt, hAnswer, hAnswer]
    refine .done ⟨rfl, hAfter⟩ ?_
    rcases hResult with rfl | ⟨records, rfl⟩
    · exact .error ⟨rfl, rfl, rfl, fun hSome => absurd rfl hSome⟩
    · exact .plain (by simp [respond, Response.kind])

end Handler

/-! ### Runs -/

/-- The settings that the latest request to connect came with. -/
def Request.settingsInForce (requests : List Request) (before : Option Config) : Option Config :=
  requests.foldl (fun before request => request.settings before) before

section run

variable {κ : Type} {shows : String → Prop} {connector : Connector κ}
  {tick : Nat → Handler κ → Handler κ}
  (hTick : ∀ milliseconds handler,
    (tick milliseconds handler).endpoint.1.connection = handler.endpoint.1.connection)
include hTick

theorem Handler.run_alike_answer (hShows : connector.Shows shows) (request : Request)
    (handler : Handler κ) :
    ((answer connector.untraced request handler).run tick).2 =
        ((answer connector request handler).run tick).2 ∧
      ((answer connector request handler).run tick).1.Alike shows
        (Config.IsQuiet (request.settings handler.settings))
        ((answer connector.untraced request handler).run tick).1 ∧
      ((answer connector request handler).run tick).2.settings =
        request.settings handler.settings := by
  have hStates (milliseconds : Nat) (before before' : Handler κ)
      (hBefore : (tracing (request.settings handler.settings)).states before before') :
      (tracing (request.settings handler.settings)).states (tick milliseconds before)
        (tick milliseconds before') := by
    obtain ⟨rfl, hBefore⟩ := hBefore
    refine ⟨rfl, ?_⟩
    rw [settings, hTick]
    exact hBefore
  obtain ⟨⟨hSame, hAfter⟩, hResponses, -⟩ := (alike_answer hShows request handler).run hStates
  exact ⟨hSame.symm, hResponses, hAfter⟩

/-- Without the stack traces a run leads to the same state. -/
theorem Handler.run_untraced (hShows : connector.Shows shows) (requests : List Request)
    (handler : Handler κ) :
    ((requests.mapM (answer connector.untraced) handler).run tick).2 =
        ((requests.mapM (answer connector) handler).run tick).2 ∧
      ((requests.mapM (answer connector) handler).run tick).2.settings =
        Request.settingsInForce requests handler.settings := by
  induction requests generalizing handler with
  | nil => exact ⟨rfl, rfl⟩
  | cons request requests ih =>
    obtain ⟨hSame, -, hSettings⟩ := run_alike_answer hTick hShows request handler
    obtain ⟨hSameLater, hSettingsLater⟩ := ih ((answer connector request handler).run tick).2
    rw [Action.run_mapM_cons, Action.run_mapM_cons, hSame]
    refine ⟨hSameLater, hSettingsLater.trans ?_⟩
    rw [hSettings]
    rfl

/-- While the settings of the latest connect do not ask for stack traces, the response to a request
is the one of the service whose connector has no stack traces at all, but for the traces of refusals:
no message of a connection has one, nor has any value.  Where refusals carry no stack traces either,
the responses are the same. -/
theorem Handler.shows_only_refusals (hShows : connector.Shows shows) (requests : List Request)
    (request : Request) (inner : κ)
    (hQuiet : Config.IsQuiet (Request.settingsInForce (requests ++ [request]) none)) :
    let before := (requests.mapM (answer connector) (.start inner)).run tick
    let before' := (requests.mapM (answer connector.untraced) (.start inner)).run tick
    let now := (answer connector request before.2).run tick
    let now' := (answer connector.untraced request before'.2).run tick
    now'.2 = now.2 ∧ now.1.Alike shows True now'.1 ∧
      (∀ message cause stacktrace, now.1 = .error (.jmx message cause stacktrace) →
        stacktrace ≠ "" → shows stacktrace) ∧
      ((∀ stacktrace, ¬shows stacktrace) → now.1 = now'.1) := by
  intro before before' now now'
  obtain ⟨hBefore, hSettings⟩ := run_untraced hTick hShows requests (.start inner)
  obtain ⟨hAfter, hAlike, -⟩ := run_alike_answer hTick hShows request before.2
  have hInForce : request.settings before.2.settings =
      Request.settingsInForce (requests ++ [request]) none := by
    rw [Request.settingsInForce, List.foldl_append, hSettings]
    rfl
  rw [hInForce] at hAlike
  have hSame : now' = (answer connector.untraced request before.2).run tick := by
    show (answer connector.untraced request before'.2).run tick = _
    rw [hBefore]
  rw [hSame]
  have hResponses := hAlike.quiet hQuiet
  refine ⟨hAfter, hResponses, ?_, hResponses.eq_of_none⟩
  intro message cause stacktrace hNow hSome
  have hError : now.1.Alike shows True _ := hResponses
  rw [hNow] at hError
  exact hError.shows_of_jmx hSome

end run

/-- A connector that opens sessions once they were refused, loses them over queries and refuses
everything else, each time with a stack trace. -/
def Connector.refusing : Connector Bool
  | .connect .. => fun tried =>
    .done true (.value (if tried then .ok ⟨0⟩ else .error (.io "down" "at connect")))
  | .names .. => pure (.value (.error (.io "lost" "at names")))
  | .describe .. => pure (.value (.error (.remote "T" "refused" "at describe")))
  | .read .. => pure (.value (.error (.remote "T" "refused" "at read")))
  | .readMany .. => pure (.value (.error (.remote "T" "refused" "at readMany")))
  | .close .. => pure (.value (.error (.io "closed" "at close")))

theorem Connector.shows_refusing :
    Connector.refusing.Shows (· ∈ ["at describe", "at read"]) := by
  intro call inner
  cases call with
  | connect | close | readMany => exact fun _ _ => trivial
  | names =>
    rintro reply ⟨⟩ error ⟨⟩ hIo
    cases hIo
  | describe =>
    rintro reply ⟨⟩ error ⟨⟩ - -
    exact List.mem_cons_self
  | read =>
    rintro reply ⟨⟩ error ⟨⟩ - -
    exact List.mem_cons_of_mem _ List.mem_cons_self

/-- The first request is not connected; the next one connects and is refused. -/
theorem Handler.shows_only_refusals_after_reconnect :
    let requests := [Request.connect (.ofHost "h" 1) none]
    let request := Request.read "a:b=c" "X" none
    let before := (requests.mapM (answer Connector.refusing) (.start false)).run Handler.tick
    let before' :=
      (requests.mapM (answer Connector.refusing.untraced) (.start false)).run Handler.tick
    let now := (answer Connector.refusing request before.2).run Handler.tick
    let now' := (answer Connector.refusing.untraced request before'.2).run Handler.tick
    before.1 = [.error (.connection
        "can't connect to JMX server: 'service:jmx:rmi:///jndi/rmi://h:1/jmxrmi', error: 'down'")] ∧
      now.1 = .error (.jmx "can't get attribute: X for bean: a:b=c: " "refused" "at read") ∧
      now'.2 = now.2 ∧ now.1.Alike (· ∈ ["at describe", "at read"]) True now'.1 := by
  intro requests request before before' now now'
  have hTick (milliseconds : Nat) (handler : Handler Bool) :
      (Handler.tick milliseconds handler).endpoint.1.connection = handler.endpoint.1.connection := rfl
  have hQuiet : Config.IsQuiet (Request.settingsInForce (requests ++ [request]) none) := by
    rintro known ⟨⟩
    rfl
  obtain ⟨hSame, hAlike, -⟩ := shows_only_refusals hTick Connector.shows_refusing
    requests request false hQuiet
  exact ⟨by decide +kernel, by decide +kernel, hSame, hAlike⟩

/-- With settings that do not ask for stack traces, the failure of an attribute that the endpoint
refuses has the stack trace of the endpoint. -/
theorem Handler.refusal_shows_stacktrace :
    let requests := [Request.connect (.ofHost "h" 1) none, .read "a:b=c" "X" none]
    let script : Script :=
      { replies := [{}, { effect := .fail (.remote "T" "m" "at x") }] }
    Config.IsQuiet (Request.settingsInForce requests none) ∧
      ((requests.mapM (answer Script.connector) (.start script)).run Handler.tick).1 =
        [.connected,
          .error (.jmx "can't get attribute: X for bean: a:b=c: " "m" "at x")] := by
  intro requests script
  constructor
  · rintro known ⟨⟩
    rfl
  · decide +kernel

end BeanBridge
