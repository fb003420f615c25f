import BeanBridge.Connector.Scripted
import BeanBridge.Proofs.Session.Operations
import BeanBridge.Service.Fetcher

/-! What an operation tells of its session.  Whatever the endpoint does, an operation other than
disconnecting fails with a failure of the connection exactly if no session is open after it. -/

namespace BeanBridge.Session

variable {α : Type}

/-- Whatever is called is answered somehow, and the connection is not touched until then. -/
def anyReply (κ : Type) : Terms Connection Call.Reply κ where
  admits _ _ _ := True
  drifts before after := after = before
  answers _ _ _ _ := True

/-- Nothing is kept. -/
def noCustody (κ : Type) : Custody κ where
  free _ _ := True
  loose _ _ _ := True
  held _ _ _ := True

theorem noCustody_usable (κ : Type) : (noCustody κ).Usable (anyReply κ) where
  still _ _ hDrifts := hDrifts
  loosen _ _ _ _ := trivial
  close _ _ _ _ := ⟨trivial, fun _ _ _ => trivial⟩
  connect _ _ _ := ⟨trivial, fun _ _ _ => ⟨fun _ _ => trivial, fun _ _ => trivial⟩⟩
  resetFree _ _ _ _ := trivial
  resetLoose _ _ _ _ _ := trivial
  use _ _ _ _ _ _ := ⟨trivial, fun _ _ _ => trivial⟩

theorem noCustody_keeps {κ : Type} (connection : Connection) (inner : κ) :
    (noCustody κ).Keeps connection inner := by
  rw [Custody.Keeps]
  cases connection.session <;> trivial

/-- While time passes nobody touches the connection. -/
def resting (κ : Type) : Terms (Endpoint κ) Wait.Reply Unit where
  admits _ _ _ := True
  drifts before after := after.1.connection = before.1.connection
  answers _ _ _ _ := True

theorem honours_anyReply {κ : Type} (connector : Connector κ) :
    connector.Honours ((anyReply κ).on Session.connection) (resting κ) fun _ => True := by
  intro call session inner _
  have hRest {α : Type} (dialogue : Dialogue κ Wait.Reply (Outcome α)) (whole : Endpoint κ)
      (hWhole : whole.1.connection = session.connection) :
      (dialogue.focus Prod.snd (fun inner whole => (whole.1, inner)) whole).Upholds (resting κ)
        (fun outcome whole _ => outcome.Satisfies
          (fun _ => whole.1.connection = session.connection ∧ True) True) () := by
    induction dialogue generalizing whole with
    | done inner outcome => cases outcome with
      | value reply => exact ⟨hWhole, trivial⟩
      | crash message => trivial
    | ask inner wait resume ih =>
      exact ⟨trivial, fun reply later _ hDrifts _ => ih reply later.2 later (hDrifts.trans hWhole)⟩
  exact hRest (connector call inner) (session, inner) rfl

/-- The time passes for the session. -/
def passTime {κ : Type} (milliseconds : Nat) (endpoint : Endpoint κ) : Endpoint κ :=
  (endpoint.1.tick milliseconds, endpoint.2)

/-- With this connector behind the session, the action can lead from one state to another and come to
this value. -/
def EndsIn {κ : Type} (connector : Connector κ) (act : Act α) (before : Session) (value : α)
    (after : Session) : Prop :=
  ∃ inner innerAfter,
    (act.answeredBy connector (before, inner)).run passTime = (.value value, after, innerAfter)

/-- Whatever the connector answers, the action ends as it does on any answers. -/
theorem Leaves.of_endsIn {κ : Type} {connector : Connector κ} {act : Act α} {before after : Session}
    {value : α} {ending : α → Connection → κ → Prop}
    (h : ∀ inner, Leaves (anyReply κ) ending act before inner)
    (hEnds : EndsIn connector act before value after) :
    ∃ inner, ending value after.connection inner := by
  obtain ⟨inner, innerAfter, hRun⟩ := hEnds
  have hRest (milliseconds : Nat) (endpoint : Endpoint κ) :
      (resting κ).drifts endpoint (passTime milliseconds endpoint) := rfl
  have hEnd := ((h inner).answeredBy (honours_anyReply connector)).run hRest fun _ _ => trivial
  rw [Action.answeredBy] at hRun
  rw [hRun] at hEnd
  exact ⟨innerAfter, hEnd⟩

/-- A failure of the connection means that no session is open, and nothing else does. -/
theorem connection_failure_iff_closed {κ : Type} (connector : Connector κ)
    (before after : Session) :
    (∀ (operation : Operation) result, operation ≠ .disconnect →
      EndsIn connector operation.act before result after →
        ((∃ message, result = .error (.connection message)) ↔ after.isConnected = false)) ∧
    (∀ pattern result, EndsIn connector (beans pattern) before result after →
      ((∃ message, result = .error (.connection message)) ↔ after.isConnected = false)) ∧
    ∀ result, EndsIn connector disconnect before result after →
      after.isConnected = false ∧
        ((∃ failure, result = .error failure) ↔ before.isConnected = false) := by
  have hTold {α : Type} {result : Except Failure α} {inner : κ}
      (hTells : (noCustody κ).Tells Failure.isLoss result after.connection inner) :
      (∃ message, result = .error (.connection message)) ↔ after.isConnected = false := by
    rw [← Failure.isLoss_iff, isConnected, hTells.2, Bool.not_eq_false']
  refine ⟨fun operation result hOther hEnds => ?_, fun pattern result hEnds => ?_,
    fun result hEnds => ?_⟩
  · obtain ⟨inner, hTells⟩ := Leaves.of_endsIn
      (fun inner => leaves_act (noCustody_usable κ) hOther (noCustody_keeps _ inner)) hEnds
    exact hTold hTells
  · obtain ⟨inner, hTells⟩ := Leaves.of_endsIn
      (fun inner => (conduct (noCustody_usable κ)).leaves_beans pattern (noCustody_keeps _ inner)) hEnds
    exact hTold hTells
  · obtain ⟨inner, -, hClosed, hLoss, hResult⟩ := Leaves.of_endsIn
      (fun inner => leaves_disconnect (noCustody_usable κ) (noCustody_keeps _ inner)) hEnds
    refine ⟨hClosed, ?_⟩
    rcases hResult with rfl | rfl
    · exact ⟨nofun, fun hBefore => absurd hLoss (by rw [hBefore]; exact Bool.false_ne_true)⟩
    · exact ⟨fun _ => (Bool.not_eq_true' _).mp hLoss.symm, fun _ => ⟨_, rfl⟩⟩

/-- A session breaks while an attribute is read over it, and another cannot be opened for a query.
Then there is nothing to close. -/
theorem connection_failure_iff_closed_broken_read :
    let lost : Session := { connection := { config := some (.ofHost "host" 7) } }
    let target := "service:jmx:rmi:///jndi/rmi://host:7/jmxrmi"
    EndsIn Script.connector (Operation.read ⟨"java", [], true⟩ "x").act lost
        (.error (.connection "can't connect to JMX server, error: 'gone'")) lost ∧
      EndsIn Script.connector (beans ⟨"java", [], true⟩) lost
        (.error (Fault.unreachable target false (.io "no" "")).failure) lost ∧
      EndsIn Script.connector disconnect lost (.error Fault.notConnected.failure) lost ∧
      (∃ message, (Fault.unreachable target false (.io "no" "")).failure = .connection message) ∧
      lost.isConnected = false := by
  intro lost target
  have hRead : EndsIn Script.connector (Operation.read ⟨"java", [], true⟩ "x").act lost
      (.error (.connection "can't connect to JMX server, error: 'gone'")) lost :=
    ⟨{ replies := [{}, { effect := .fail (.io "gone" "") }] },
      { connects := 1
        calls := [.close ⟨1⟩, .read ⟨1⟩ ⟨"java", [], true⟩ "x", .connect target {}] }, rfl⟩
  have hBeans : EndsIn Script.connector (beans ⟨"java", [], true⟩) lost
      (.error (Fault.unreachable target false (.io "no" "")).failure) lost :=
    ⟨{ replies := [{ effect := .fail (.io "no" "") }] }, { calls := [.connect target {}] }, rfl⟩
  have hClose : EndsIn Script.connector disconnect lost (.error Fault.notConnected.failure) lost :=
    ⟨{}, {}, rfl⟩
  obtain ⟨hOperation, hQuery, hDisconnect⟩ :=
    connection_failure_iff_closed Script.connector lost lost
  have hClosed : lost.isConnected = false :=
    (hOperation (.read ⟨"java", [], true⟩ "x") _ nofun hRead).mp ⟨_, rfl⟩
  obtain ⟨message, hReported⟩ := (hQuery _ _ hBeans).mpr hClosed
  exact ⟨hRead, hBeans, hClose, ⟨message, Except.error.inj hReported⟩, (hDisconnect _ hClose).1⟩

end BeanBridge.Session
