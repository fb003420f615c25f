import BeanBridge.Proofs.Connector.Answering
import BeanBridge.Proofs.Connector.Table
import BeanBridge.Session.Operations

/-! What is read in a session that is open with an endpoint in memory where nothing is set up to
break it.  Each operation comes to what the table says at once, and changes nothing but the
records. -/

namespace BeanBridge.Session

variable {α β : Type} {library : RegexLibrary} {connection : Connection} {memory : Memory}
  {handle : SessionHandle}

/-- The session that is held is open with the endpoint, where calls are answered from the table. -/
structure AtEase (connection : Connection) (memory : Memory) (handle : SessionHandle) : Prop where
  held : connection.session = some handle
  live : handle ∈ memory.live
  calm : memory.Calm

/-- In the session the act comes to the value, with nothing changed but the records. -/
def ComesTo (library : RegexLibrary) (connection : Connection) (memory : Memory) (act : Act α)
    (value : α) : Prop :=
  ∀ stats, ∃ after, act.answeredBy (Memory.connector library) (⟨connection, stats⟩, memory) =
    .done (⟨connection, after⟩, memory) (.value value)

theorem comesTo_pure (value : α) : ComesTo library connection memory (pure value) value :=
  fun stats => ⟨stats, rfl⟩

theorem ComesTo.bind {act : Act α} {value : α} {next : α → Act β} {result : β}
    (h : ComesTo library connection memory act value)
    (hNext : ComesTo library connection memory (next value) result) :
    ComesTo library connection memory (act >>= next) result := by
  intro stats
  obtain ⟨between, hAct⟩ := h stats
  obtain ⟨after, hResult⟩ := hNext between
  exact ⟨after, (Action.answeredBy_bind hAct).trans hResult⟩

/-- What is made of the value. -/
theorem ComesTo.map {act : Act α} {value : α} (h : ComesTo library connection memory act value)
    (change : α → β) : ComesTo library connection memory (do return change (← act)) (change value) :=
  h.bind (comesTo_pure _)

theorem comesTo_ask {call : Call} {reply : call.Reply}
    (h : Memory.connector library call memory = .done memory (.value reply)) :
    ComesTo library connection memory (Action.ask call) reply :=
  fun stats => ⟨stats, Action.answeredBy_ask h⟩

theorem ComesTo.recorded {act : Act α} {value : α} (h : ComesTo library connection memory act value)
    (kind bean : String) (attributes : List String) (count : α → Option Nat) :
    ComesTo library connection memory (recorded kind bean attributes count act) value := by
  have hStats (change : Stats → Stats) : ComesTo library connection memory (onStats change) () :=
    fun stats => ⟨change stats, rfl⟩
  intro stats
  obtain ⟨handle, begun, hBegin⟩ : ∃ handle begun,
      (beginRecord kind bean attributes).answeredBy (Memory.connector library)
        (⟨connection, stats⟩, memory) = .done (⟨connection, begun⟩, memory) (.value handle) := ⟨_, _, rfl⟩
  rw [Session.recorded, Action.answeredBy_bind hBegin]
  exact h.bind ((hStats _).bind (comesTo_pure value)) begun

theorem AtEase.comesTo_attempt (h : AtEase connection memory handle)
    {request : SessionHandle → Act (Except ConnectorError α)} {reply : Except ConnectorError α}
    (hRequest : ComesTo library connection memory (request handle) reply) :
    ComesTo library connection memory (attempt request) (.ok reply) := by
  have hEnsure : ComesTo library connection memory (onConnection Connection.ensure) (.ok handle) := by
    intro stats
    refine ⟨stats, ?_⟩
    obtain ⟨config, session⟩ := connection
    obtain rfl : session = some handle := h.held
    rfl
  exact hEnsure.bind (hRequest.map Except.ok)

/-- A session that is not broken is not given up. -/
theorem comesTo_givingUp (activity : Activity) {reply : Except ConnectorError α}
    (hMild : ∀ error, reply = .error error → error.isIo = false) :
    ComesTo library connection memory (givingUp activity (.ok reply)) (.ok reply) := by
  cases reply with
  | ok value => exact comesTo_pure _
  | error error =>
    rw [givingUp, if_neg (by simp [hMild error rfl])]
    exact comesTo_pure _

/-- A call comes to the reply, unless the reply is that the session is broken. -/
theorem AtEase.comesTo_call (h : AtEase connection memory handle) (activity : Activity)
    {request : SessionHandle → Act (Except ConnectorError α)} {reply : Except ConnectorError α}
    (hRequest : ComesTo library connection memory (request handle) reply)
    (hMild : ∀ error, reply = .error error → error.isIo = false) :
    ComesTo library connection memory (call activity request) (.ok reply) :=
  (h.comesTo_attempt hRequest).bind (comesTo_givingUp activity hMild)

/-! ### Single reads -/

/-- What is made of the reply to a read of an attribute. -/
def fetched (bean : BeanName) (name : String) (reply : Except ConnectorError Value) :
    Except Failure (List Entry) :=
  match settled (.attributeRefused name bean) (.ok reply) with
  | .error failure => .error failure
  | .ok value =>
    (value.flatten (qualifiedName bean name)).mapError fun reason => (Fault.unusable reason).failure

/-- The entries read, or the one that reports the failure. -/
def reported (bean : BeanName) (name : String) : Except Failure (List Entry) → List Entry
  | .ok entries => entries
  | .error failure =>
    [.failed (qualifiedName bean name) (statusText "can't get attribute" failure)]

/-- A failure to read an attribute is none of the connection. -/
theorem fetched_eq_error {bean : BeanName} {name : String} {reply : Except ConnectorError Value}
    {failure : Failure} (h : fetched bean name reply = .error failure) :
    ∃ message cause stacktrace, failure = .operation message cause stacktrace := by
  cases reply with
  | error error =>
    obtain rfl := Except.error.inj h
    exact ⟨_, _, _, rfl⟩
  | ok value =>
    change (value.flatten (qualifiedName bean name)).mapError _ = _ at h
    cases hFlatten : value.flatten (qualifiedName bean name) with
    | ok entries => rw [hFlatten] at h; cases h
    | error reason =>
      rw [hFlatten] at h
      obtain rfl := Except.error.inj h
      exact ⟨_, _, _, rfl⟩

section

variable {bean : BeanName} {row : Memory.Bean}

theorem AtEase.comesTo_fetch (h : AtEase connection memory handle)
    (hFind : memory.find bean = .ok row) (hMild : row.Mild) (name : String) :
    ComesTo library connection memory (fetch bean name) (fetched bean name (row.read name)) :=
  (h.comesTo_call .readingAttribute (comesTo_ask (h.calm.read h.live hFind name))
    fun _ => hMild.read).map _

/-- The entries of attributes, each read by itself. -/
def entriesEach (row : Memory.Bean) (bean : BeanName) (names : List String) : List Entry :=
  names.flatMap fun name => reported bean name (fetched bean name (row.read name))

theorem AtEase.comesTo_fetchEach (h : AtEase connection memory handle)
    (hFind : memory.find bean = .ok row) (hMild : row.Mild) (names : List String) :
    ComesTo library connection memory (fetchEach bean names) ⟨entriesEach row bean names, none⟩ := by
  induction names with
  | nil => exact comesTo_pure _
  | cons name names ih =>
    have hFetch : ComesTo library connection memory (fetch bean name) _ :=
      h.comesTo_fetch hFind hMild name
    rw [entriesEach, List.flatMap_cons]
    cases hFetched : fetched bean name (row.read name) with
    | ok entries =>
      rw [hFetched] at hFetch
      exact hFetch.bind (ih.map _)
    | error failure =>
      rw [hFetched] at hFetch
      obtain ⟨message, cause, stacktrace, rfl⟩ := fetched_eq_error hFetched
      exact hFetch.bind (ih.map _)

/-! ### Reads of several attributes -/

/-- The entries of attributes, read together if that is possible. -/
def entriesNamed (row : Memory.Bean) (bean : BeanName) (names : List String) : List Entry :=
  match row.readMany names with
  | .ok values => batchEntries bean names values
  | .error _ => entriesEach row bean names

theorem AtEase.comesTo_readNamed (h : AtEase connection memory handle)
    (hFind : memory.find bean = .ok row) (hMild : row.Mild) (names : List String) :
    ComesTo library connection memory (readNamed bean names) ⟨entriesNamed row bean names, none⟩ := by
  have hAttempt : ComesTo library connection memory
      (attempt fun session => Action.ask (Call.readMany session bean names))
      (.ok (row.readMany names)) :=
    h.comesTo_attempt (comesTo_ask (h.calm.readMany h.live hFind names))
  refine (hAttempt.recorded _ _ _ _).bind
    ((comesTo_givingUp .readingAttributes fun _ => hMild.readMany).bind ?_)
  rw [entriesNamed]
  cases row.readMany names with
  | ok values => exact comesTo_pure _
  | error error => exact h.comesTo_fetchEach hFind hMild names

theorem AtEase.comesTo_readMany (h : AtEase connection memory handle)
    (hFind : memory.find bean = .ok row) (hMild : row.Mild) {names : List String}
    (hNames : names ≠ []) :
    ComesTo library connection memory (readMany bean names) ⟨entriesNamed row bean names, none⟩ := by
  rw [readMany, if_neg (by simpa using hNames)]
  exact h.comesTo_readNamed hFind hMild names

end

end BeanBridge.Session
