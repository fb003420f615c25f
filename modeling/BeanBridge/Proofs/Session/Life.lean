import BeanBridge.Proofs.Session.Custody

/-! The life of a connection.  Tasks are begun on it one after another; the endpoint answers their
calls as it likes, and a task may be given up at any of its calls.  Whatever comes of it, a session
that is held was opened by the last call for one, with the settings that were given last. -/

namespace BeanBridge.Connection

/-- Something to be done with a connection. -/
inductive Task where
  | connect (config : Config)
  | disconnect
  | release
  | ensure

/-- Does the task.  The value is the session that is handed out, if one is. -/
def Task.perform : Task → Act (Except Failure (Option SessionHandle))
  | connect config => do return (← Connection.connect config).map fun _ => none
  | disconnect => do return (← Connection.disconnect).map fun _ => none
  | release => do
    let _ ← Connection.release
    return .ok none
  | ensure => do return (← Connection.ensure).map some

/-- What happens to a connection. -/
inductive Event where
  | begun (task : Task)
  | answered (call : Call) (reply : call.Reply)
  /-- The task was given up while it waited for the answer. -/
  | abandoned (call : Call)

/-- How far the last task is: at a call, or at its end, which has no result if it was given up. -/
abbrev Moment : Type :=
  Dialogue Connection Call.Reply (Option (Except Failure (Option SessionHandle)))

inductive Step : Moment → Event → Moment → Prop where
  | begin {connection : Connection} {result : Option (Except Failure (Option SessionHandle))}
      (task : Task) :
      Step (.done connection result) (.begun task)
        ((task.perform connection).bind fun result connection => .done connection (some result))
  | answer {connection : Connection} {call : Call} {resume : call.Reply → Connection → Moment}
      (reply : call.Reply) :
      Step (.ask connection call resume) (.answered call reply) (resume reply connection)
  | abandon {connection : Connection} {call : Call} {resume : call.Reply → Connection → Moment} :
      Step (.ask connection call resume) (.abandoned call) (.done connection none)

/-- The life of a connection from its beginning, with its events in order. -/
inductive Life : List Event → Moment → Prop where
  | fresh : Life [] (.done {} none)
  | step {events : List Event} {event : Event} {moment next : Moment} :
      Life events moment → Step moment event next → Life (events ++ [event]) next

/-- A call for a session, and the answer if it was waited for. -/
structure Opening where
  target : String
  environment : Environment
  reply : Option (Except ConnectorError SessionHandle)

namespace Event

/-- The call for a session that came to its end. -/
def opening? : Event → Option Opening
  | answered (.connect target environment) reply => some ⟨target, environment, some reply⟩
  | abandoned (.connect target environment) => some ⟨target, environment, none⟩
  | _ => none

/-- The settings given. -/
def config? : Event → Option Config
  | begun (.connect config) => some config
  | _ => none

end Event

/-- The last thing of a kind that is found in the events. -/
def last {β : Type} (find : Event → Option β) (events : List Event) : Option β :=
  (events.filterMap find).getLast?

section last

variable {β : Type} (find : Event → Option β) {event : Event}

theorem last_append (h : find event = none) (events : List Event) :
    last find (events ++ [event]) = last find events := by
  rw [last, List.filterMap_append, List.filterMap_cons_none h, List.filterMap_nil, List.append_nil,
    last]

theorem last_append_some {found : β} (h : find event = some found) (events : List Event) :
    last find (events ++ [event]) = some found := by
  rw [last, List.filterMap_append, List.filterMap_cons_some h, List.filterMap_nil,
    List.getLast?_concat]

end last

/-- The events so far, and the session that was held before the last of them. -/
structure Past where
  events : List Event
  found : Option SessionHandle

/-- The endpoint is called with no session held, and none is closed but the one just let go. -/
def recorded : Terms Connection Call.Reply Past where
  admits call connection past :=
    connection.session = none ∧ connection.config = last Event.config? past.events ∧
      ∀ session, call = .close session → past.found = some session
  drifts before after := after = before
  answers call past reply next := next = ⟨past.events ++ [.answered call reply], none⟩

/-- The settings are those given last, and the session was opened with them by the last call for
one. -/
def ofSettings : Custody Past where
  free config past := config = last Event.config? past.events
  loose config session past := config = last Event.config? past.events ∧ past.found = some session
  held config session past := config = last Event.config? past.events ∧
    ∃ settings, config = some settings ∧ last Event.opening? past.events =
      some ⟨settings.target, settings.environment, some (.ok session)⟩

theorem ofSettings_lawful : ofSettings.Lawful recorded where
  still _ _ hDrifts := hDrifts
  close config session past h := by
    obtain ⟨hConfig, hFound⟩ := h
    refine ⟨⟨rfl, hConfig, ?_⟩, ?_⟩
    · rintro closed ⟨⟩
      exact hFound
    · rintro reply next rfl
      exact hConfig.trans (last_append _ rfl _).symm
  connect config past h := by
    refine ⟨⟨rfl, h, nofun⟩, ?_⟩
    rintro reply next rfl
    have hConfig : some config = last Event.config?
        (past.events ++ [.answered (.connect config.target config.environment) reply]) :=
      h.trans (last_append _ rfl _).symm
    refine ⟨?_, fun _ _ => hConfig⟩
    rintro session rfl
    exact ⟨hConfig, config, rfl, last_append_some Event.opening? rfl _⟩

theorem settings_of_keeps {connection : Connection} {past : Past}
    (h : ofSettings.Keeps connection past) :
    connection.config = last Event.config? past.events := by
  obtain ⟨config, session⟩ := connection
  cases session with
  | none => exact h
  | some session => exact h.1

/-- What is handed out is the session that is held, and there is one when one was opened. -/
def EndsWell (result : Except Failure (Option SessionHandle)) (connection : Connection) : Prop :=
  (∀ session, result = .ok (some session) → connection.session = some session) ∧
    result ≠ .error (.connection "connection to JMX endpoint is not established")

theorem endsWell_error {failure : Failure} {connection : Connection}
    (h : failure = Fault.notConfigured.failure ∨ failure = Fault.notConnected.failure ∨
      ∃ (config : Config) (error : ConnectorError),
        failure = (Fault.unreachable config.target config.verbose error).failure) :
    EndsWell (.error failure) connection := by
  refine ⟨nofun, fun hSame => ?_⟩
  -- The second letter tells the texts apart, whatever target and error they name further on.
  have hText {message : String} (hFailure : failure = .connection message) :
      message.toList[1]? = some 'o' := by
    obtain rfl := Failure.connection.inj (hFailure.symm.trans (Except.error.inj hSame))
    decide
  rcases h with rfl | rfl | ⟨config, error, rfl⟩
  · exact absurd (hText rfl) (by decide)
  · exact absurd (hText rfl) (by decide)
  · exact absurd (hText rfl) (by simp)

theorem Task.upholds_perform {connection : Connection} {past : Past}
    (h : ofSettings.Keeps connection past) (task : Task) :
    (task.perform connection).Upholds recorded
      (fun result after next => ofSettings.Keeps after next ∧ EndsWell result after)
      ⟨past.events ++ [.begun task], connection.session⟩ := by
  obtain ⟨config, session⟩ := connection
  have hKnows (given : Option Config)
      (hGiven : given = last Event.config? (past.events ++ [.begun task])) :
      ofSettings.Knows ⟨given, session⟩ ⟨past.events ++ [.begun task], session⟩ := by
    cases session with
    | none => exact hGiven
    | some session => exact ⟨hGiven, rfl⟩
  have hConfig : config = last Event.config? past.events := settings_of_keeps h
  cases task with
  | connect config =>
    show ((openWith config ⟨some config, session⟩).bind _).Upholds _ _ _
    refine (upholds_openWith ofSettings_lawful rfl
      (hKnows (some config) (last_append_some Event.config? rfl _).symm)).bind ?_
    rintro (failure | value) after next ⟨hKeeps, -, hResult⟩
    · obtain ⟨-, error, rfl⟩ := hResult
      exact ⟨hKeeps, endsWell_error (.inr (.inr ⟨config, error, rfl⟩))⟩
    · exact ⟨hKeeps, nofun, nofun⟩
  | disconnect =>
    refine (upholds_disconnect ofSettings_lawful
      (hKnows config (hConfig.trans (last_append _ rfl _).symm))).bind ?_
    rintro result after next ⟨hKeeps, -, -, hResult⟩
    refine ⟨hKeeps, ?_⟩
    rcases hResult with rfl | rfl
    · exact ⟨nofun, nofun⟩
    · exact endsWell_error (.inr (.inl rfl))
  | release =>
    refine (upholds_release ofSettings_lawful
      (hKnows config (hConfig.trans (last_append _ rfl _).symm))).bind ?_
    rintro released after next ⟨-, rfl, hFree⟩
    exact ⟨hFree, nofun, nofun⟩
  | ensure =>
    have hKeeps : ofSettings.Keeps ⟨config, session⟩ ⟨past.events ++ [.begun .ensure], session⟩ := by
      cases session with
      | none => exact hConfig.trans (last_append _ rfl _).symm
      | some session =>
        obtain ⟨settings, hSettings, hOpening⟩ := h.2
        exact ⟨hConfig.trans (last_append _ rfl _).symm, settings, hSettings,
          (last_append _ rfl _).trans hOpening⟩
    refine (upholds_ensure ofSettings_lawful hKeeps).bind ?_
    rintro (failure | session) after next ⟨hKeeps, -, hResult⟩
    · obtain ⟨-, hReason⟩ := hResult
      exact ⟨hKeeps, endsWell_error (hReason.imp_right .inr)⟩
    · refine ⟨hKeeps, ?_, nofun⟩
      rintro handed ⟨⟩
      exact hResult

/-- The moment is in keeping with the past. -/
def Follows (moment : Moment) (past : Past) : Prop :=
  moment.Upholds recorded
    (fun result connection past => ofSettings.Keeps connection past ∧
      ∀ ended ∈ result, EndsWell ended connection) past

theorem Follows.step {moment next : Moment} {event : Event} {past : Past}
    (h : Follows moment past) (hStep : Step moment event next) :
    Follows next ⟨past.events ++ [event], moment.state.session⟩ := by
  cases hStep with
  | begin task =>
    refine (task.upholds_perform h.1).bind ?_
    rintro result after next ⟨hKeeps, hEnds⟩
    refine ⟨hKeeps, ?_⟩
    rintro ended ⟨⟩
    exact hEnds
  | @answer connection call resume reply =>
    obtain ⟨⟨hEmpty, -⟩, hResume⟩ := h
    show Follows _ ⟨_, connection.session⟩
    rw [hEmpty]
    exact hResume reply connection _ rfl rfl
  | @abandon connection call resume =>
    -- No session is held at a call, so that giving up there loses none.
    obtain ⟨⟨hEmpty, hConfig, -⟩, -⟩ := h
    refine ⟨?_, nofun⟩
    rw [Custody.Keeps, hEmpty]
    exact hConfig.trans (last_append _ rfl _).symm

theorem Life.follows {events : List Event} {moment : Moment} (h : Life events moment) :
    ∃ found, Follows moment ⟨events, found⟩ := by
  induction h with
  | fresh => exact ⟨none, rfl, nofun⟩
  | step h hStep ih =>
    obtain ⟨found, hFollows⟩ := ih
    exact ⟨_, hFollows.step hStep⟩

section Follows

variable {moment next : Moment} {event : Event} {past : Past}

theorem Follows.settings (h : Follows moment past) :
    moment.state.config = last Event.config? past.events := by
  cases moment with
  | ask connection call resume => exact h.1.2.1
  | done connection result => exact settings_of_keeps h.1

theorem Follows.emptyHanded {connection : Connection} {call : Call}
    {resume : call.Reply → Connection → Moment}
    (h : Follows (.ask connection call resume) past) : connection.session = none :=
  h.1.1

theorem Follows.held (h : Follows moment past) {session : SessionHandle}
    (hSession : moment.state.session = some session) :
    ∃ config, moment.state.config = some config ∧ last Event.opening? past.events =
      some ⟨config.target, config.environment, some (.ok session)⟩ := by
  cases moment with
  | ask connection call resume => exact absurd (h.emptyHanded.symm.trans hSession) nofun
  | done connection result =>
    obtain ⟨hKeeps, -⟩ := h
    have hSession : connection.session = some session := hSession
    rw [Custody.Keeps, hSession] at hKeeps
    exact hKeeps.2

theorem Follows.found {connection : Connection} {session : SessionHandle}
    {resume : Except ConnectorError Unit → Connection → Moment}
    (h : Follows (.ask connection (.close session) resume) past) : past.found = some session :=
  h.1.2.2 session rfl

theorem Follows.not_replaced (h : Follows moment past) (hStep : Step moment event next) :
    moment.state.session = none ∨ next.state.session = none ∨
      next.state.session = moment.state.session := by
  cases hBefore : moment.state.session with
  | none => exact .inl rfl
  | some session =>
    cases hAfter : next.state.session with
    | none => exact .inr (.inl rfl)
    | some later =>
      obtain ⟨config, -, hOpening⟩ := h.held hBefore
      obtain ⟨settings, -, hLater⟩ := (h.step hStep).held hAfter
      -- Both were opened by the last call for a session, and a beginning is none.
      cases hStep with
      | begin task =>
        rw [last_append _ rfl _, hOpening] at hLater
        obtain ⟨-, -, hReply⟩ := Opening.mk.inj (Option.some.inj hLater)
        exact .inr (.inr (congrArg some (Except.ok.inj (Option.some.inj hReply)).symm))
      | answer reply | abandon => exact absurd (h.emptyHanded.symm.trans hBefore) nofun

end Follows

/-- What the connection holds is as it was told last, now and after another step. -/
structure Fits (events : List Event) (moment : Moment) : Prop where
  /-- The settings are those of the last task of connecting that was begun. -/
  settings : moment.state.config = last Event.config? events
  /-- The session was opened by the last call for one, which had the address of the settings. -/
  held : ∀ session, moment.state.session = some session →
    ∃ config, moment.state.config = some config ∧ last Event.opening? events =
      some ⟨config.target, config.environment, some (.ok session)⟩
  /-- No session is held while the endpoint is called. -/
  emptyHanded : ∀ connection call resume, moment = .ask connection call resume →
    connection.session = none
  /-- A session that is closed was held and has just been let go. -/
  closed : ∀ event connection session resume,
    Step moment event (.ask connection (.close session) resume) →
      moment.state.session = some session
  notReplaced : ∀ event next, Step moment event next →
    moment.state.session = none ∨ next.state.session = none ∨
      next.state.session = moment.state.session
  ends : ∀ connection result, moment = .done connection (some result) → EndsWell result connection

/-- Whatever the endpoint answers and whichever tasks are given up, a session that is held is the one
that the last call for a session opened, with the settings given last. -/
theorem held_session_fits_settings {events : List Event} {moment : Moment}
    (h : Life events moment) : Fits events moment := by
  obtain ⟨found, hFollows⟩ := h.follows
  exact {
    settings := hFollows.settings
    held := fun session => hFollows.held
    emptyHanded := by
      rintro connection call resume rfl
      exact hFollows.emptyHanded
    closed := fun event connection session resume hStep => (hFollows.step hStep).found
    notReplaced := fun event next => hFollows.not_replaced
    ends := by
      rintro connection result rfl
      exact hFollows.2 result rfl }

/-- A session is opened, a task to connect elsewhere is given up before it has opened another, and
the next that is opened leads there. -/
theorem held_session_fits_settings_after_abandoned_move :
    ∃ events moment, Life events moment ∧ moment.state = ⟨some (.ofUrl "b"), some ⟨2⟩⟩ ∧
      last Event.opening? events = some ⟨"b", {}, some (.ok ⟨2⟩)⟩ := by
  have hOpened := (Life.fresh.step (.begin (.connect (.ofUrl "a")))).step
    (.answer (Except.ok ⟨1⟩ : Except ConnectorError SessionHandle))
  have hMoved := ((hOpened.step (.begin (.connect (.ofUrl "b")))).step
    (.answer (Except.error (.io "late" "") : Except ConnectorError Unit))).step .abandon
  have hEnsured := (hMoved.step (.begin .ensure)).step
    (.answer (Except.ok ⟨2⟩ : Except ConnectorError SessionHandle))
  obtain ⟨config, hConfig, hOpening⟩ := (held_session_fits_settings hEnsured).held ⟨2⟩ rfl
  obtain rfl := Option.some.inj hConfig
  exact ⟨_, _, hEnsured, rfl, hOpening⟩

end BeanBridge.Connection
