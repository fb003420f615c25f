import BeanBridge.Proofs.Dialogue.Terms
import BeanBridge.Session.Connection

/-! The custody of sessions.  A connection holds one session at most.  It lets go of it before it
closes it and holds none while it opens another, so at every call for closing or opening it stands
there with empty hands.  What a side keeps about the sessions is carried along by every operation of
the connection, if closing frees what was held and opening takes hold of what was free. -/

namespace BeanBridge

/-- What is kept about the session of a connection with these settings. -/
structure Custody (γ : Type) where
  /-- No session is open. -/
  free : Option Config → γ → Prop
  /-- This session is open, with whatever settings. -/
  loose : Option Config → SessionHandle → γ → Prop
  /-- This session is open, with the settings. -/
  held : Option Config → SessionHandle → γ → Prop

namespace Custody

variable {γ : Type} (custody : Custody γ)

/-- What is kept fits the connection. -/
def Keeps (connection : Connection) (other : γ) : Prop :=
  match connection.session with
  | none => custody.free connection.config other
  | some session => custody.held connection.config session other

/-- What is kept fits the connection but for its settings, which may have changed. -/
def Knows (connection : Connection) (other : γ) : Prop :=
  match connection.session with
  | none => custody.free connection.config other
  | some session => custody.loose connection.config session other

/-- What is kept fits the connection, and the value tells whether a session is open. -/
def Tells {α : Type} (isLoss : α → Bool) (value : α) (connection : Connection) (other : γ) : Prop :=
  custody.Keeps connection other ∧ connection.isConnected = !isLoss value

/-- What closing and opening do is in keeping with the custody. -/
structure Lawful (terms : Terms Connection Call.Reply γ) : Prop where
  /-- Nothing else touches the connection. -/
  still : ∀ before after, terms.drifts before after → after = before
  close : ∀ config session other, custody.loose config session other →
    terms.admits (.close session) ⟨config, none⟩ other ∧
      ∀ reply next, terms.answers (.close session) other reply next → custody.free config next
  connect : ∀ config other, custody.free (some config) other →
    terms.admits (.connect config.target config.environment) ⟨some config, none⟩ other ∧
      ∀ reply next,
        terms.answers (.connect config.target config.environment) other reply next →
        (∀ session, reply = .ok session → custody.held (some config) session next) ∧
          ∀ error, reply = .error error → custody.free (some config) next

theorem Tells.congr {custody : Custody γ} {α β : Type} {isLoss : α → Bool} {isLoss' : β → Bool}
    {value : α} {value' : β} {connection : Connection} {other : γ}
    (h : custody.Tells isLoss value connection other) (hSame : isLoss' value' = isLoss value) :
    custody.Tells isLoss' value' connection other :=
  ⟨h.1, by rw [hSame]; exact h.2⟩

end Custody

/-- The result is the failure which tells that no session is open. -/
def Failure.isLoss {α : Type} : Except Failure α → Bool
  | .ok _ => false
  | .error failure => failure.isConnection

theorem Failure.isLoss_map {α β : Type} (change : α → β) (result : Except Failure α) :
    Failure.isLoss (result.map change) = Failure.isLoss result := by
  cases result <;> rfl

theorem Failure.isLoss_iff {α : Type} {result : Except Failure α} :
    Failure.isLoss result = true ↔ ∃ message, result = .error (.connection message) := by
  constructor
  · intro hLoss
    cases result with
    | ok value => exact absurd hLoss Bool.false_ne_true
    | error failure => cases failure with
      | connection message => exact ⟨message, rfl⟩
      | operation message cause stacktrace => exact absurd hLoss Bool.false_ne_true
  · rintro ⟨message, rfl⟩
    rfl

namespace Connection

variable {γ : Type} {terms : Terms Connection Call.Reply γ} {custody : Custody γ}
  {connection : Connection} {other : γ}

theorem upholds_release (hLawful : custody.Lawful terms) (h : custody.Knows connection other) :
    (release connection).Upholds terms
      (fun released after next => released = connection.isConnected ∧
        after = { connection with session := none } ∧ custody.free connection.config next) other := by
  obtain ⟨config, session⟩ := connection
  cases session with
  | none => exact ⟨rfl, rfl, h⟩
  | some session =>
    obtain ⟨hAdmits, hFree⟩ := hLawful.close config session other h
    refine ⟨hAdmits, fun reply later next hDrifts hAnswers => ?_⟩
    obtain rfl := hLawful.still _ _ hDrifts
    exact ⟨rfl, rfl, hFree reply next hAnswers⟩

/-- A session is opened and held, or none is and the failure tells why. -/
theorem upholds_openWith (hLawful : custody.Lawful terms) {config : Config}
    (hConfig : connection.config = some config) (h : custody.Knows connection other) :
    (openWith config connection).Upholds terms
      (fun result after next => custody.Keeps after next ∧ after.config = some config ∧
        match result with
        | .ok () => after.isConnected = true
        | .error failure => after.isConnected = false ∧
          ∃ error, failure = (Fault.unreachable config.target config.verbose error).failure)
      other := by
  rw [openWith, Action.bind_apply]
  refine (upholds_release hLawful h).bind fun released after next hReleased => ?_
  obtain ⟨-, rfl, hFree⟩ := hReleased
  -- Whatever was held is let go by now, so the call for another is made with none held.
  rw [hConfig] at hFree ⊢
  obtain ⟨hAdmits, hNext⟩ := hLawful.connect config next hFree
  refine ⟨hAdmits, fun reply later last hDrifts hAnswers => ?_⟩
  obtain rfl := hLawful.still _ _ hDrifts
  obtain ⟨hHeld, hFree⟩ := hNext reply last hAnswers
  cases reply with
  | ok session => exact ⟨hHeld session rfl, rfl, rfl⟩
  | error error => exact ⟨hFree error rfl, rfl, rfl, error, rfl⟩

theorem upholds_connect (hLawful : custody.Lawful terms) (config : Config)
    (h : custody.Knows { connection with config := some config } other) :
    (connect config connection).Upholds terms (custody.Tells Failure.isLoss) other := by
  show (openWith config { connection with config := some config }).Upholds _ _ _
  refine (upholds_openWith hLawful rfl h).mono fun result after next hEnd => ?_
  obtain ⟨hKeeps, -, hResult⟩ := hEnd
  cases result with
  | ok value => exact ⟨hKeeps, hResult⟩
  | error failure =>
    obtain ⟨hClosed, error, rfl⟩ := hResult
    exact ⟨hKeeps, hClosed⟩

theorem upholds_disconnect (hLawful : custody.Lawful terms) (h : custody.Knows connection other) :
    (disconnect connection).Upholds terms
      (fun result after next => custody.Keeps after next ∧
        after = { connection with session := none } ∧
        Failure.isLoss result = !connection.isConnected ∧
        (result = .ok () ∨ result = .error Fault.notConnected.failure)) other := by
  rw [disconnect, Action.bind_apply]
  refine (upholds_release hLawful h).bind fun released after next hReleased => ?_
  obtain ⟨rfl, rfl, hFree⟩ := hReleased
  cases hConnected : connection.isConnected with
  | true => exact ⟨hFree, rfl, rfl, .inl rfl⟩
  | false => exact ⟨hFree, rfl, rfl, .inr rfl⟩

/-- The session that is held is found, or one is opened; there is a reason when there is none. -/
theorem upholds_ensure (hLawful : custody.Lawful terms) (h : custody.Keeps connection other) :
    (ensure connection).Upholds terms
      (fun result after next => custody.Keeps after next ∧ after.config = connection.config ∧
        match result with
        | .ok session => after.session = some session
        | .error failure => after.isConnected = false ∧
          (failure = Fault.notConfigured.failure ∨ ∃ (config : Config) (error : ConnectorError),
            failure = (Fault.unreachable config.target config.verbose error).failure)) other := by
  obtain ⟨config, session⟩ := connection
  cases session with
  | some session => exact ⟨h, rfl, rfl⟩
  | none =>
    cases config with
    | none => exact ⟨h, rfl, rfl, .inl rfl⟩
    | some config =>
      have hKnows : custody.Knows ⟨some config, none⟩ other := h
      show ((openWith config ⟨some config, none⟩).bind _).Upholds _ _ _
      refine (upholds_openWith hLawful rfl hKnows).bind fun result after next hEnd => ?_
      obtain ⟨hKeeps, hConfig, hResult⟩ := hEnd
      cases result with
      | error failure =>
        obtain ⟨hClosed, error, rfl⟩ := hResult
        exact ⟨hKeeps, hConfig, hClosed, .inr ⟨config, error, rfl⟩⟩
      | ok value =>
        obtain ⟨session, hSession⟩ := Option.isSome_iff_exists.mp hResult
        show Dialogue.Upholds _ _ ((Action.get >>= _ : Act (Except Failure SessionHandle)) after) _
        rw [Action.get_bind_apply, hSession]
        exact ⟨hKeeps, hConfig, hSession⟩

end Connection

end BeanBridge
