import BeanBridge.Proofs.Session.Masking
import BeanBridge.Service.Handler

/-! Services whose settings are masked.  Two services get requests that differ in nothing but what is
masked of settings.  They are in step: the connector is called at the same times for the same things,
the same sessions are open, and the responses are the same, except perhaps to requests for the
records. -/

namespace BeanBridge

/-- What is seen of a response, the records being looked at with the view. -/
def Response.seen (view : Stats.View) : Response → Response
  | .stats records => .stats (records.map view.stat)
  | response => response

theorem Response.seen_full (response : Response) : response.seen .full = response := by
  cases response with
  | stats records => exact congrArg _ (List.map_id records)
  | _ => rfl

namespace Fetcher

variable {κ : Type} {masking : Masking} {view : Stats.View} {alike : κ → κ → Prop}
  {connector : Connector κ}

/-- Endpoints whose sessions are akin, and that are alike behind them. -/
abbrev kinship (masking : Masking) (view : Stats.View := .full) (alike : κ → κ → Prop := Eq) :
    Kinship (Endpoint κ) Wait.Reply :=
  (Session.kinship masking view).answered alike

/-- Operations are submitted that are akin, or none is for one and the same reason. -/
theorem inStep_call (hSound : masking.Sound)
    (hBlind : connector.Blind (Session.kinship masking view) alike)
    (timeout : Int64) {operation operation' : Except Failure Operation}
    (h : operation = operation' ∨ ∃ done done', operation = .ok done ∧ operation' = .ok done' ∧
      done.Akin masking done') :
    (call connector timeout operation).InStep (kinship masking view alike) Eq
      (call connector timeout operation') := by
  have hJob {done done' : Operation} (hAkin : done.Akin masking done') :
      (call connector timeout (.ok done)).InStep (kinship masking view alike) Eq
        (call connector timeout (.ok done')) := by
    intro endpoint endpoint' hStates
    have hAnswered := (hAkin.inStep hSound).answeredBy hBlind endpoint endpoint' hStates
    exact Executor.inStep_call (fun _ => rfl) (submission connector timeout done)
      (submission connector timeout done') rfl hAnswered
  rcases h with rfl | ⟨done, done', rfl, rfl, hAkin⟩
  · cases operation with
    | error failure => exact .pure rfl
    | ok done => exact hJob (.same done)
  · exact hJob hAkin

/-- What taking the records comes to, and the recorder after it. -/
def drained (stats : Stats) : Except Failure Response × Stats :=
  match stats.drain? with
  | none => (.error Fault.statsOff.failure, stats)
  | some (records, after) => (.ok (.stats records), after)

/-- Only the records decide what taking them comes to. -/
theorem drain_apply (session : Session) (inner : κ) :
    drain (session, inner) =
      .done ({ session with stats := (drained session.stats).2 }, inner)
        (drained session.stats).1 := by
  rw [drain, drained, Action.get_bind_apply]
  cases hDrained : session.stats.drain? with
  | none =>
    simp only [hDrained]
    rfl
  | some drained =>
    simp only [hDrained]
    rfl

theorem drained_congr (view : Stats.View) {stats stats' : Stats}
    (h : view.stats stats = view.stats stats') :
    (drained stats).1.map (Response.seen view) = (drained stats').1.map (Response.seen view) ∧
      view.stats (drained stats).2 = view.stats (drained stats').2 := by
  have hSeen := view.drain?_congr h
  rw [drained, drained]
  cases hBefore : stats.drain? with
  | none =>
    cases hBefore' : stats'.drain? with
    | none => exact ⟨rfl, h⟩
    | some after' => simp [hBefore, hBefore'] at hSeen
  | some after =>
    cases hBefore' : stats'.drain? with
    | none => simp [hBefore, hBefore'] at hSeen
    | some after' =>
      rw [hBefore, hBefore'] at hSeen
      obtain ⟨hRecords, hAfter⟩ := Prod.mk.inj (Option.some.inj hSeen)
      exact ⟨congrArg (fun records => Except.ok (Response.stats records)) hRecords, hAfter⟩

theorem inStep_drain :
    (drain : Timed (Endpoint κ) _).InStep (kinship masking view alike)
      (fun result result' => masking.keepsRecords →
        result.map (Response.seen view) = result'.map (Response.seen view)) drain := by
  rintro ⟨session, inner⟩ ⟨session', inner'⟩ ⟨hAkin, hInner⟩
  rw [drain_apply, drain_apply]
  have hDrained (hKeeps : masking.keepsRecords) := drained_congr view (hAkin.stats hKeeps)
  exact .done ⟨⟨hAkin.connection, fun hKeeps => (hDrained hKeeps).2⟩, hInner⟩
    fun hKeeps => (hDrained hKeeps).1

end Fetcher

/-! ### Requests -/

/-- Requests that do not differ but in what is masked of settings. -/
inductive Request.Akin (masking : Masking) : Request → Request → Prop where
  | same (request : Request) : Akin masking request request
  | connect {config config' : Config} (timeout : Option Int64)
    (h : masking.settings config config') :
    Akin masking (.connect config timeout) (.connect config' timeout)

namespace Handler

variable {κ : Type} {masking : Masking} {view : Stats.View} {alike : κ → κ → Prop}
  {connector : Connector κ}

structure Akin (masking : Masking) (handler handler' : Handler κ) (view : Stats.View := .full)
    (alike : κ → κ → Prop := Eq) : Prop where
  session : handler.endpoint.1.Akin masking handler'.endpoint.1 view
  inner : alike handler.endpoint.2 handler'.endpoint.2
  timeout : handler.defaultTimeout = handler'.defaultTimeout

abbrev kinship (masking : Masking) (view : Stats.View := .full) (alike : κ → κ → Prop := Eq) :
    Kinship (Handler κ) Wait.Reply :=
  .timed fun handler handler' => handler.Akin masking handler' view alike

theorem inStep_onEndpoint {α β : Type} {ending : α → β → Prop} {act : Timed (Endpoint κ) α}
    {act' : Timed (Endpoint κ) β} (h : act.InStep (Fetcher.kinship masking view alike) ending act') :
    (onEndpoint act).InStep (kinship masking view alike) ending (onEndpoint act') := by
  refine h.focus ?_ ?_
  · intro later later' hLater
    exact ⟨hLater.session, hLater.inner⟩
  · intro endpoint endpoint' later later' hEndpoint hLater
    exact ⟨hEndpoint.1, hEndpoint.2, hLater.timeout⟩

theorem seen_respond (view : Stats.View) (result : Except Failure Response) :
    (respond result).seen view = respond (result.map (Response.seen view)) := by
  cases result <;> rfl

section

variable (hSound : masking.Sound) (hBlind : connector.Blind (Session.kinship masking view) alike)
include hSound hBlind

theorem inStep_perform (timeout : Option Int64) {operation operation' : Except Failure Operation}
    (h : operation = operation' ∨ ∃ done done', operation = .ok done ∧ operation' = .ok done' ∧
      done.Akin masking done') :
    (perform connector timeout operation).InStep (kinship masking view alike) Eq
      (perform connector timeout operation') := by
  intro handler handler' hAkin
  rw [perform, perform, Action.get_bind_apply, Action.get_bind_apply, hAkin.timeout]
  exact (inStep_onEndpoint (Fetcher.inStep_call hSound hBlind _ h)).map
    (fun _ _ hResult => congrArg respond hResult) handler handler' hAkin

/-- Requests that are akin have the same response; of the records the same is seen if they are kept
in the same way. -/
theorem inStep_answer {request request' : Request} (h : request.Akin masking request') :
    (answer connector request).InStep (kinship masking view alike)
      (fun response response' => (request ≠ .stats → response = response') ∧
        (masking.keepsRecords → response.seen view = response'.seen view))
      (answer connector request') := by
  have hAlways {act act' : Timed (Handler κ) Response}
      (h : act.InStep (kinship masking view alike) Eq act') :
      act.InStep (kinship masking view alike)
        (fun response response' => (request ≠ .stats → response = response') ∧
          (masking.keepsRecords → response.seen view = response'.seen view)) act' :=
    h.mono fun _ _ hSame => ⟨fun _ => hSame, fun _ => congrArg _ hSame⟩
  have hConnect {config config' : Config} (timeout : Option Int64)
      (h : masking.settings config config') :
      (answer connector (.connect config timeout)).InStep (kinship masking view alike) Eq
        (answer connector (.connect config' timeout)) := by
    refine Action.InStep.bind (Action.InStep.modify ?_) fun _ _ _ =>
      inStep_perform hSound hBlind timeout (.inr ⟨_, _, rfl, rfl, .connect h⟩)
    intro handler handler' hAkin
    exact ⟨hAkin.session, hAkin.inner, hSound.timeout _ _ h⟩
  cases h with
  | connect timeout h => exact hAlways (hConnect timeout h)
  | same =>
    cases request with
    | ping | version => exact hAlways (.pure rfl)
    | connect config timeout => exact hAlways (hConnect timeout (hSound.refl config))
    | disconnect => exact hAlways (inStep_perform hSound hBlind none (.inl rfl))
    | beanNames _ timeout | attributeNames _ timeout | read _ _ timeout | readMany _ _ timeout
    | queryMany _ _ timeout => exact hAlways (inStep_perform hSound hBlind timeout (.inl rfl))
    | stats =>
      refine (inStep_onEndpoint Fetcher.inStep_drain).map fun result result' hResult => ?_
      refine ⟨fun hOther => absurd rfl hOther, fun hKeeps => ?_⟩
      rw [seen_respond, seen_respond, hResult hKeeps]

theorem inStep_answers_seen {requests requests' : List Request}
    (h : List.Forall₂ (Request.Akin masking) requests requests') :
    (requests.mapM (answer connector)).InStep (kinship masking view alike)
      (fun responses responses' =>
        (∀ index : Nat, requests[index]? ≠ some .stats → responses[index]? = responses'[index]?) ∧
          (masking.keepsRecords →
            responses.map (Response.seen view) = responses'.map (Response.seen view)))
      (requests'.mapM (answer connector)) := by
  induction h with
  | nil => exact .pure ⟨fun _ _ => rfl, fun _ => rfl⟩
  | cons hRequest _ ih =>
    rw [List.mapM_cons, List.mapM_cons]
    refine (inStep_answer hSound hBlind hRequest).bind fun response response' hResponse => ?_
    refine ih.map fun responses responses' hResponses => ⟨fun index hOther => ?_, fun hKeeps => ?_⟩
    · cases index with
      | zero => simpa using hResponse.1 (by simpa using hOther)
      | succ index => simpa using hResponses.1 index (by simpa using hOther)
    · rw [List.map_cons, List.map_cons, hResponse.2 hKeeps, hResponses.2 hKeeps]

end

/-- Where all is seen, the records themselves are the same. -/
theorem inStep_answers (hSound : masking.Sound)
    (hBlind : connector.Blind (Session.kinship masking) alike) {requests requests' : List Request}
    (h : List.Forall₂ (Request.Akin masking) requests requests') :
    (requests.mapM (answer connector)).InStep (kinship masking .full alike)
      (fun responses responses' => ∀ index : Nat,
        masking.keepsRecords ∨ requests[index]? ≠ some .stats →
          responses[index]? = responses'[index]?)
      (requests'.mapM (answer connector)) := by
  refine (inStep_answers_seen hSound hBlind h).mono ?_
  rintro responses responses' ⟨hOthers, hRecords⟩ index (hKeeps | hOther)
  · have hSame := hRecords hKeeps
    simp only [funext Response.seen_full, List.map_id'] at hSame
    rw [hSame]
  · exact hOthers index hOther

end Handler

end BeanBridge
