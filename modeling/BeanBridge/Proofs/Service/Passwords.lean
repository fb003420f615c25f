import BeanBridge.Connector.Memory
import BeanBridge.Proofs.Service.Masking

/-! What passwords change.  Services that are asked for the same with other passwords give the same
responses, unless it is the endpoint that tells the passwords apart; and the texts in which settings
are shown say only where there are passwords. -/

namespace BeanBridge

/-- The settings do not differ but in the passwords. -/
def Config.AlikeButPasswords (config config' : Config) : Prop :=
  ∃ password keyStorePassword trustStorePassword,
    config' = { config with password, keyStorePassword, trustStorePassword }

def Environment.withoutPasswords (environment : Environment) : Environment :=
  { environment with
    credentials := environment.credentials.map ({ · with password := "" })
    stores := environment.stores.map ({ · with keyPassword := "", trustPassword := "" }) }

/-- The passwords are masked. -/
def Masking.passwords : Masking where
  settings := Config.AlikeButPasswords
  environments environment environment' :=
    environment.withoutPasswords = environment'.withoutPasswords
  keepsRecords := True

/-- Whatever does not depend on passwords is the same. -/
theorem Config.AlikeButPasswords.eq {α : Type} {config config' : Config}
    (h : config.AlikeButPasswords config') {look : Config → α}
    (hLook : ∀ password keyStorePassword trustStorePassword,
      look { config with password, keyStorePassword, trustStorePassword } = look config) :
    look config = look config' := by
  obtain ⟨password, keyStorePassword, trustStorePassword, rfl⟩ := h
  exact (hLook password keyStorePassword trustStorePassword).symm

theorem Config.AlikeButPasswords.environment {config config' : Config}
    (h : config.AlikeButPasswords config') :
    config.environment.withoutPasswords = config'.environment.withoutPasswords := by
  obtain ⟨password, keyStorePassword, trustStorePassword, rfl⟩ := h
  simp only [Config.environment, Environment.withoutPasswords, Environment.mk.injEq, and_true]
  constructor
  · split <;> rfl
  · split <;> rfl

theorem Masking.sound_passwords : Masking.passwords.Sound where
  refl _ := ⟨_, _, _, rfl⟩
  target _ _ h := h.eq fun _ _ _ => rfl
  verbose _ _ h := h.eq fun _ _ _ => rfl
  environment _ _ h := h.environment
  timeout _ _ h := h.eq fun _ _ _ => rfl
  records _ _ h _ := ⟨h.eq fun _ _ _ => rfl, h.eq fun _ _ _ => rfl⟩

/-! ### Settings as text -/

theorem Config.redacted_congr {secret secret' : String} (h : secret = "" ↔ secret' = "") :
    redacted secret = redacted secret' := by
  simp only [redacted, String.isEmpty_iff, h]

theorem Config.AlikeButPasswords.debugText_eq {config config' : Config}
    (h : config.AlikeButPasswords config') (hPassword : config.password = "" ↔ config'.password = "")
    (hKeyStore : config.keyStorePassword = "" ↔ config'.keyStorePassword = "")
    (hTrustStore : config.trustStorePassword = "" ↔ config'.trustStorePassword = "") :
    config.debugText = config'.debugText := by
  obtain ⟨password, keyStorePassword, trustStorePassword, rfl⟩ := h
  rw [debugText, debugText, redacted_congr hPassword, redacted_congr hKeyStore,
    redacted_congr hTrustStore]

theorem Environment.debugText_withoutPasswords (environment : Environment) :
    environment.withoutPasswords.debugText = environment.debugText := by
  rcases environment with ⟨_ | credentials, _ | stores, includesStacktrace⟩ <;> rfl

theorem Config.AlikeButPasswords.environment_debugText_eq {config config' : Config}
    (h : config.AlikeButPasswords config') :
    config.environment.debugText = config'.environment.debugText := by
  rw [← Environment.debugText_withoutPasswords, h.environment,
    Environment.debugText_withoutPasswords]

/-! ### Connectors -/

/-- Passwords do not show in what the connector does: from states that are alike, calls that differ in
nothing but passwords come to the same after the same waits, and in states that are alike again. -/
def Connector.IgnoresPasswords {κ : Type} (connector : Connector κ) (alike : κ → κ → Prop) : Prop :=
  connector.Blind (Session.kinship .passwords .timeless) alike

/-- The tables are the same but for the circumstances in which a session was opened last. -/
inductive Memory.Alike : Memory → Memory → Prop where
  | intro (memory : Memory) (environment environment' : Option Environment) :
    Alike { memory with lastEnvironment := environment }
      { memory with lastEnvironment := environment' }

namespace Memory

theorem inStep_enter (session : SessionHandle) :
    (enter session).InStep (.timed Alike) Eq (enter session) := by
  rintro _ _ ⟨memory, environment, environment'⟩
  have hAlike (memory : Memory) := Alike.intro memory environment environment'
  rw [enter, Action.get_bind_apply, Action.get_bind_apply]
  by_cases hLive : session ∈ memory.live
  · simp only [hLive, not_true_eq_false, if_false]
    cases memory.nextFailure with
    | some error => exact .done (hAlike { memory with nextFailure := none }) rfl
    | none =>
      cases memory.delay with
      | none => exact .done (hAlike { memory with nextFailure := none, delay := none }) rfl
      | some delay =>
        refine .ask (hAlike { memory with nextFailure := none, delay := some delay }) rfl ?_
        intro _ _ later later' _ hLater
        exact .done hLater rfl
  · simp only [hLive, not_false_eq_true, if_true]
    exact .done (hAlike memory) rfl

theorem inStep_answered {α : Type} (session : SessionHandle)
    {answer : Memory → Outcome (Except ConnectorError α)}
    (h : ∀ memory memory', Alike memory memory' → answer memory = answer memory') :
    (answered session answer).InStep (.timed Alike) Eq (answered session answer) := by
  refine (inStep_enter session).bind ?_
  rintro (error | entered) _ rfl
  · exact .pure rfl
  · exact fun memory memory' hAlike => .done hAlike (h memory memory' hAlike)

theorem inStep_connect (target : String) (environment environment' : Environment) :
    (connect target environment).InStep (.timed Alike) Eq (connect target environment') := by
  rintro _ _ ⟨memory, last, last'⟩
  have hAlike (memory : Memory) := Alike.intro memory (some environment) (some environment')
  rw [connect, connect, Action.modify_bind_apply, Action.modify_bind_apply, Action.get_bind_apply,
    Action.get_bind_apply]
  let asked : Memory :=
    { memory with connects := memory.connects + 1, lastTarget := some target }
  cases memory.refusal with
  | some message => exact .done (hAlike { asked with refusal := some message }) rfl
  | none =>
    exact .done (hAlike { asked with
      refusal := none
      live := ⟨memory.connects + 1⟩ :: memory.live
      openCount := memory.openCount + 1 }) rfl

theorem inStep_close (session : SessionHandle) :
    (Action.modify (close session) : Timed Memory Unit).InStep (.timed Alike) Eq
      (Action.modify (close session)) := by
  refine Action.InStep.modify ?_
  rintro _ _ ⟨memory, environment, environment'⟩
  simp only [Kinship.timed, close]
  by_cases hLive : session ∈ memory.live
  · rw [if_pos hLive, if_pos hLive]
    exact .intro { memory with
      live := memory.live.erase session
      openCount := memory.openCount - 1 } _ _
  · rw [if_neg hLive, if_neg hLive]
    exact .intro memory _ _

/-- The table keeps the passwords, but has no use for them. -/
theorem connector_ignoresPasswords (library : RegexLibrary) :
    (connector library).IgnoresPasswords Alike := by
  have hConnect (target : String) (environment environment' : Environment) :
      (connector library (.connect target environment)).InStep (.timed Alike) Eq
        (connector library (.connect target environment')) :=
    (inStep_connect target environment environment').map fun _ _ => congrArg Outcome.value
  have hSelf (call : Call) : (connector library call).InStep (.timed Alike) Eq
      (connector library call) := by
    cases call with
    | connect target environment => exact hConnect target environment environment
    | names session pattern | describe session bean | read session bean name
    | readMany session bean names =>
      refine inStep_answered session ?_
      rintro _ _ ⟨memory, environment, environment'⟩
      rfl
    | close session => exact (inStep_close session).map fun _ _ _ => rfl
  have hSame {α : Type} (outcome outcome' : Outcome α) (h : outcome = outcome') :
      outcome.Akin (fun reply reply' => HEq reply reply') outcome' := h ▸ .refl HEq.refl outcome
  intro call call' hCalls
  cases hCalls with
  | same => exact (hSelf call).mono hSame
  | @connect target environment environment' =>
    exact (hConnect target environment environment').mono hSame

end Memory

namespace Handler

variable {κ : Type}

/-- A handler that nothing was asked of yet, when the clock shows the time given. -/
def startAt (now : Nat) (inner : κ) : Handler κ := { endpoint := ({ stats := { now } }, inner) }

/-- Time passes for the connector, and the clock goes on to show what it likes. -/
def elapse (clock : Nat → Handler κ → Nat) (drift : Nat → κ → κ) (milliseconds : Nat)
    (handler : Handler κ) : Handler κ :=
  { handler with
    endpoint := ({ handler.endpoint.1 with stats.now := clock milliseconds handler },
      drift milliseconds handler.endpoint.2) }

/-- Passwords do not show.  Two services are asked for the same, but for the passwords in the settings
of connections, and their connectors ignore passwords.  Then they give the same responses, failures and
records included, whatever their clocks show.  Settings that differ in passwords only, and the
circumstances that they ask for, look the same as texts, if passwords are given in the same places. -/
theorem passwords_do_not_show {connector : Connector κ} {alike : κ → κ → Prop}
    (hConnector : connector.IgnoresPasswords alike) {drift : Nat → κ → κ}
    (hDrift : ∀ milliseconds inner inner', alike inner inner' →
      alike (drift milliseconds inner) (drift milliseconds inner'))
    {inner inner' : κ} (hInner : alike inner inner') {requests requests' : List Request}
    (h : List.Forall₂ (Request.Akin .passwords) requests requests')
    (clock clock' : Nat → Handler κ → Nat) (now now' : Nat) :
    let responses :=
      ((requests.mapM (answer connector) (startAt now inner)).run (elapse clock drift)).1
    let responses' :=
      ((requests'.mapM (answer connector) (startAt now' inner')).run (elapse clock' drift)).1
    responses.map (Response.seen .timeless) = responses'.map (Response.seen .timeless) ∧
    (∀ index : Nat, requests[index]? ≠ some .stats → responses[index]? = responses'[index]?) ∧
    ∀ config config' : Config, config.AlikeButPasswords config' →
      config.environment.debugText = config'.environment.debugText ∧
      ((config.password = "" ↔ config'.password = "") →
        (config.keyStorePassword = "" ↔ config'.keyStorePassword = "") →
        (config.trustStorePassword = "" ↔ config'.trustStorePassword = "") →
        config.debugText = config'.debugText) := by
  intro responses responses'
  have hStart : Akin .passwords (startAt now inner) (startAt now' inner') .timeless alike :=
    ⟨⟨⟨rfl, .none⟩, fun _ => rfl⟩, hInner, rfl⟩
  have hTick (milliseconds : Nat) (handler handler' : Handler κ)
      (hAkin : Akin .passwords handler handler' .timeless alike) :
      Akin .passwords (elapse clock drift milliseconds handler)
        (elapse clock' drift milliseconds handler') .timeless alike :=
    ⟨⟨hAkin.session.connection, hAkin.session.stats⟩, hDrift _ _ _ hAkin.inner, hAkin.timeout⟩
  have hInStep := inStep_answers_seen Masking.sound_passwords hConnector h
  obtain ⟨-, ⟨hOthers, hSeen⟩, -⟩ := (hInStep _ _ hStart).run hTick
  refine ⟨hSeen trivial, hOthers, fun config config' hAlike => ?_⟩
  exact ⟨hAlike.environment_debugText_eq, hAlike.debugText_eq⟩

/-- Two users read from a table with different passwords, and their clocks differ.  The records tell
different times and are the same otherwise. -/
theorem passwords_do_not_show_in_records :
    let config (password : String) : Config :=
      { Config.ofHost "h" 1 with user := "u", password, recordsStats := true }
    let requests (password : String) := [Request.connect (config password) none,
      .read "d:k=v" "a" none, .read "d:k=v" "b" (some 3), .stats]
    let memory : Memory := { delay := some 5, beans := [("d:k=v",
      { name := ⟨"d", [⟨"k", "v", false⟩], false⟩, attributes := [("a", .integer 1)] })] }
    let clock (milliseconds : Nat) (handler : Handler Memory) :=
      handler.endpoint.1.stats.now + milliseconds
    let clock' (milliseconds : Nat) (handler : Handler Memory) :=
      handler.endpoint.1.stats.now + 7 * milliseconds
    let responses := (((requests "p").mapM (answer Memory.connector) (startAt 1000 memory)).run
      (elapse clock fun _ => id)).1
    let responses' := (((requests "q").mapM (answer Memory.connector) (startAt 5 memory)).run
      (elapse clock' fun _ => id)).1
    responses.map Response.kind = ["connected", "attributes", "error", "internalStats"] ∧
      responses ≠ responses' ∧
      responses.map (Response.seen .timeless) = responses'.map (Response.seen .timeless) ∧
      (config "p").debugText = (config "q").debugText ∧
      (config "p").environment.debugText = (config "q").environment.debugText := by
  intro config requests memory clock clock' responses responses'
  have hConfigs : (config "p").AlikeButPasswords (config "q") := ⟨_, _, _, rfl⟩
  have hRequests : List.Forall₂ (Request.Akin .passwords) (requests "p") (requests "q") :=
    .cons (.connect none hConfigs) (.cons (.same _) (.cons (.same _) (.cons (.same _) .nil)))
  have hDrift (milliseconds : Nat) (memory memory' : Memory) (h : Memory.Alike memory memory') :
      Memory.Alike (id memory) (id memory') := h
  obtain ⟨hSeen, -, hTexts⟩ := passwords_do_not_show
    (Memory.connector_ignoresPasswords .ofPatterns) hDrift
    (.intro memory none none) hRequests clock clock' 1000 5
  obtain ⟨hEnvironment, hConfig⟩ := hTexts _ _ hConfigs
  exact ⟨by decide +kernel, by decide +kernel, hSeen, hConfig (by decide) Iff.rfl Iff.rfl,
    hEnvironment⟩

end Handler

end BeanBridge
