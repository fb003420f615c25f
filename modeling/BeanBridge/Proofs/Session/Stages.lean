import BeanBridge.Connector.Scripted
import BeanBridge.Proofs.Session.Exchanges

/-! The stages of an operation.  It opens a session if none is open, asks over it as long as it is
answered, and gives it up when a call finds it broken; nothing follows that.  The stages say which
call may come next, and every operation keeps to them whatever the endpoint does. -/

namespace BeanBridge

namespace Call

def isConnect : Call → Bool
  | connect .. => true
  | _ => false

theorem Uses.not_isConnect {call : Call} {session : SessionHandle} (h : call.Uses session) :
    call.isConnect = false := by
  cases call with
  | connect target environment => exact h.elim
  | _ => rfl

theorem Uses.unique {call : Call} {session session' : SessionHandle} (h : call.Uses session)
    (h' : call.Uses session') : session = session' := by
  cases call with
  | connect target environment => exact h.elim
  | close closed => exact h.elim
  | _ => exact h.symm.trans h'

end Call

namespace Exchange

def failure? : Exchange → Option ConnectorError
  | ⟨call, .value reply⟩ => call.failure? reply
  | ⟨_, .crash _⟩ => none

/-- The call over the session has found it broken. -/
structure Breaks (exchange : Exchange) (session : SessionHandle) : Prop where
  uses : exchange.call.Uses session
  isIo : exchange.failure?.any ConnectorError.isIo = true

end Exchange

/-- How far an operation has come. -/
inductive Stage where
  /-- No session is open, and none was asked for. -/
  | apart
  /-- The session is open, and no call has found it broken. -/
  | live (session : SessionHandle)
  /-- A call has found the session broken. -/
  | broken (session : SessionHandle)
  /-- The session was given up, or none could be opened. -/
  | ended

namespace Stage

/-- The call may come next. -/
def Admits (config : Option Config) : Stage → Call → Prop
  | apart, call => ∃ settings ∈ config, call = .connect settings.target settings.environment
  | live session, call => call.Uses session
  | broken session, call => call = .close session
  | ended, _ => False

def used (session : SessionHandle) (failure? : Option ConnectorError) : Stage :=
  if failure?.any ConnectorError.isIo then broken session else live session

/-- What an exchange makes of the stage. -/
inductive Step (config : Option Config) : Stage → Exchange → Stage → Prop
  | opened {settings : Config} (session : SessionHandle) : settings ∈ config →
    Step config apart ⟨.connect settings.target settings.environment, .value (.ok session)⟩
      (live session)
  | refused {settings : Config} (error : ConnectorError) : settings ∈ config →
    Step config apart ⟨.connect settings.target settings.environment, .value (.error error)⟩ ended
  | used {session : SessionHandle} {call : Call} (reply : call.Reply) : call.Uses session →
    Step config (live session) ⟨call, .value reply⟩ (used session (call.failure? reply))
  | closed (session : SessionHandle) (reply : (Call.close session).Reply) :
    Step config (broken session) ⟨.close session, .value reply⟩ ended
  | crashed {stage : Stage} {call : Call} (message : Option String) : stage.Admits config call →
    Step config stage ⟨call, .crash message⟩ ended

/-- How many sessions may still be asked for. -/
def chances : Stage → Nat
  | apart => 1
  | live _ | broken _ | ended => 0

theorem chances_used (session : SessionHandle) (failure? : Option ConnectorError) :
    (used session failure?).chances = 0 := by
  rw [used]
  split <;> rfl

theorem used_of_not_isIo {session : SessionHandle} {failure? : Option ConnectorError}
    (h : failure?.any ConnectorError.isIo = false) : used session failure? = live session := by
  simp [used, h]

variable {config : Option Config} {before after : Stage} {exchange : Exchange}

/-- A session is asked for only while there is a chance for it, which is gone with that. -/
theorem Step.chances (h : Step config before exchange after) :
    (if exchange.call.isConnect then 1 else 0) + after.chances = before.chances := by
  cases h with
  | opened session hSettings => rfl
  | refused error hSettings => rfl
  | used reply hUses =>
    rw [chances_used, hUses.not_isConnect]
    rfl
  | closed session reply => rfl
  | crashed message hAdmits =>
    cases before with
    | apart =>
      obtain ⟨settings, -, hCall⟩ := hAdmits
      simp [hCall, Call.isConnect, Stage.chances]
    | live session =>
      have hUses : Call.Uses session _ := hAdmits
      simp [hUses.not_isConnect, Stage.chances]
    | broken session =>
      have hCall : _ = Call.close session := hAdmits
      simp [hCall, Call.isConnect, Stage.chances]
    | ended => exact hAdmits.elim

theorem Step.breaks (h : Step config before exchange after) {session : SessionHandle}
    (hBreaks : exchange.Breaks session) : after = broken session := by
  obtain ⟨hUses, hIo⟩ := hBreaks
  cases h with
  | opened opened hSettings => exact hUses.elim
  | refused error hSettings => exact hUses.elim
  | used reply hOver =>
    obtain rfl := hOver.unique hUses
    exact if_pos hIo
  | closed closed reply => exact hUses.elim
  | crashed message hAdmits => nomatch hIo

theorem Step.of_broken {session : SessionHandle} (h : Step config (broken session) exchange after) :
    (∃ outcome, exchange = ⟨.close session, outcome⟩) ∧ after = ended := by
  cases h with
  | closed session reply => exact ⟨⟨.value reply, rfl⟩, rfl⟩
  | crashed message hAdmits =>
    obtain rfl := hAdmits
    exact ⟨⟨.crash message, rfl⟩, rfl⟩

theorem Step.not_ended (h : Step config ended exchange after) : False := by
  cases h with
  | crashed message hAdmits => exact hAdmits

theorem Step.not_apart (h : Step none apart exchange after) : False := by
  cases h with
  | opened session hSettings => nomatch hSettings
  | refused error hSettings => nomatch hSettings
  | crashed message hAdmits =>
    obtain ⟨settings, hSettings, -⟩ := hAdmits
    nomatch hSettings

end Stage

/-- The exchanges lead from one stage to another. -/
inductive Course (config : Option Config) (start : Stage) : List Exchange → Stage → Prop
  | start : Course config start [] start
  | step {past : List Exchange} {stage after : Stage} {exchange : Exchange} :
    Course config start past stage → stage.Step config exchange after →
    Course config start (past ++ [exchange]) after

namespace Course

variable {config : Option Config} {start stage : Stage} {past : List Exchange}

theorem chances (h : Course config start past stage) :
    past.countP (·.call.isConnect) + stage.chances = start.chances := by
  induction h with
  | start => simp
  | step h hStep ih =>
    have hChances := hStep.chances
    rw [List.countP_append, List.countP_singleton]
    omega

/-- After a call has found the session broken there is at most one more, which closes it. -/
theorem after_break {earlier later : List Exchange} {exchange : Exchange} {session : SessionHandle}
    (h : Course config start past stage) (hPast : past = earlier ++ exchange :: later)
    (hBreaks : exchange.Breaks session) :
    later = [] ∧ stage = .broken session ∨
      (∃ outcome, later = [⟨.close session, outcome⟩]) ∧ stage = .ended := by
  induction h generalizing later with
  | start => simp at hPast
  | @step past stage after last h hStep ih =>
    -- The last exchange is the one that breaks the session, or it follows it.
    rcases List.eq_nil_or_concat later with rfl | ⟨between, final, rfl⟩
    · obtain ⟨-, hLast⟩ := List.append_inj' hPast rfl
      obtain rfl : last = exchange := by simpa using hLast
      exact .inl ⟨rfl, hStep.breaks hBreaks⟩
    · have hSplit : past ++ [last] = (earlier ++ exchange :: between) ++ [final] := by
        simpa using hPast
      obtain ⟨hBefore, hLast⟩ := List.append_inj' hSplit rfl
      obtain rfl : last = final := by simpa using hLast
      rcases ih hBefore with ⟨rfl, rfl⟩ | ⟨-, rfl⟩
      · obtain ⟨⟨outcome, rfl⟩, rfl⟩ := hStep.of_broken
        exact .inr ⟨⟨outcome, rfl⟩, rfl⟩
      · exact hStep.not_ended.elim

theorem eq_apart (h : Course none .apart past stage) : stage = .apart := by
  induction h with
  | start => rfl
  | step h hStep ih =>
    subst ih
    exact hStep.not_apart.elim

end Course

namespace Session

/-- The calls that the stages admit next. -/
def mayAt (config : Option Config) (start : Stage) (past : List Exchange) (call : Call) : Prop :=
  ∃ stage, Course config start past stage ∧ stage.Admits config call

def stage (connection : Connection) : Stage := connection.session.elim .apart .live

/-- An operation may go on: the exchanges have left a session open, or there were none. -/
inductive Stands (config : Option Config) (start : Stage) : Connection → List Exchange → Prop
  | live {session : SessionHandle} {past : List Exchange} : Course config start past (.live session) →
    Stands config start ⟨config, some session⟩ past
  | apart {past : List Exchange} : Course config start past .apart →
    Stands config start ⟨config, none⟩ past

/-- An operation is told of the session: it is open, it was lost, or none can be opened. -/
inductive Told (config : Option Config) (start : Stage) : Bool → Connection → List Exchange → Prop
  | kept {session : SessionHandle} {past : List Exchange} : Course config start past (.live session) →
    Told config start false ⟨config, some session⟩ past
  | lost {past : List Exchange} : Course config start past .ended →
    Told config start true ⟨config, none⟩ past
  | unconfigured {past : List Exchange} : config = none → Course config start past .apart →
    Told config start true ⟨config, none⟩ past

section conduct

variable {α : Type} {config : Option Config} {start : Stage} {connection : Connection}
  {past : List Exchange}

theorem upholds_ensure (h : Stands config start connection past) :
    (Connection.ensure connection).Upholds (tracked (mayAt config start))
      (fun result after past => match result with
        | .ok session => after = ⟨config, some session⟩ ∧ Course config start past (.live session)
        | .error failure => failure.isConnection = true ∧ Told config start true after past) past := by
  cases h with
  | live hCourse => exact ⟨rfl, hCourse⟩
  | apart hCourse =>
    cases config with
    | none => exact ⟨rfl, .unconfigured rfl hCourse⟩
    | some settings =>
      refine ⟨⟨.apart, hCourse, settings, rfl, rfl⟩, ?_⟩
      rintro (error | session) later next rfl rfl
      · exact ⟨rfl, .lost (hCourse.step (.refused error rfl))⟩
      · exact ⟨rfl, hCourse.step (.opened session rfl)⟩

theorem leaves_use {call : Call} {session : SessionHandle} {state : Session}
    (hUses : call.Uses session) (h : Course config start past (.live session))
    (hConnection : state.connection = ⟨config, some session⟩) :
    Leaves (tracked (mayAt config start))
      (fun reply after past => after = ⟨config, some session⟩ ∧
        Course config start past (.used session (call.failure? reply)))
      (Action.ask call) state past := by
  refine ⟨⟨_, h, hUses⟩, ?_⟩
  rintro reply later next hSame rfl
  exact ⟨hSame.trans hConnection, h.step (.used reply hUses)⟩

theorem leaves_inquiry {activity : Activity}
    {request : SessionHandle → Act (Except ConnectorError α)} (hInquiry : Inquiry activity request)
    {session : SessionHandle} {state : Session} (h : Course config start past (.live session))
    (hConnection : state.connection = ⟨config, some session⟩) :
    Leaves (tracked (mayAt config start))
      (fun result after past => after = ⟨config, some session⟩ ∧ match result with
        | .ok _ => Course config start past (.live session)
        | .error error => Course config start past (.used session (some error)))
      (request session) state past := by
  have hUse (call : Call) (hUses : call.Uses session) := leaves_use hUses h hConnection
  cases hInquiry with
  | names pattern =>
    apply (hUse (.names session pattern) rfl).mono
    rintro (error | names) after past hEnd <;> exact hEnd
  | describe bean =>
    apply (hUse (.describe session bean) rfl).mono
    rintro (error | info) after past hEnd <;> exact hEnd
  | read bean name =>
    apply (hUse (.read session bean name) rfl).mono
    rintro (error | value) after past hEnd <;> exact hEnd
  | readMany bean names =>
    apply (hUse (.readMany session bean names) rfl).mono
    rintro (error | values) after past hEnd <;> exact hEnd

/-- A call has found the session broken, which is still open. -/
inductive Broken (config : Option Config) (start : Stage) : Connection → List Exchange → Prop
  | intro {session : SessionHandle} {past : List Exchange} :
    Course config start past (.broken session) → Broken config start ⟨config, some session⟩ past

theorem upholds_release_broken (h : Broken config start connection past) :
    (Connection.release connection).Upholds (tracked (mayAt config start))
      (fun _ after past => Told config start true after past) past := by
  obtain ⟨h⟩ := h
  refine ⟨⟨_, h, rfl⟩, ?_⟩
  rintro reply later next rfl rfl
  exact .lost (h.step (.closed _ reply))

/-- Every operation keeps to the stages, whatever is answered. -/
theorem conduct_stages :
    Conduct (tracked (mayAt config start)) (Stands config start) (Broken config start)
      (Told config start) where
  attempt hInquiry state past hStands := by
    refine (Leaves.onConnection (upholds_ensure hStands)).bind ?_
    rintro (failure | session) state past hEnsured
    · obtain ⟨hLoss, hTold⟩ := hEnsured
      show Told config start failure.isConnection state.connection past
      rw [hLoss]
      exact hTold
    · obtain ⟨hConnection, hCourse⟩ := hEnsured
      refine (leaves_inquiry hInquiry hCourse hConnection).map ?_
      rintro (error | value) _ past ⟨rfl, hCourse⟩
      · rw [AfterAttempt, isBroken]
        cases hIo : error.isIo with
        | true =>
          have hBroken : Stage.used session (some error) = .broken session := if_pos hIo
          exact .intro (hBroken ▸ hCourse)
        | false =>
          have hOpen : Stage.used session (some error) = .live session :=
            Stage.used_of_not_isIo hIo
          exact .kept (hOpen ▸ hCourse)
      · exact .kept hCourse
  release state past hBroken := Leaves.onConnection (upholds_release_broken hBroken)
  again _ _ hTold := by
    cases hTold with
    | kept hCourse => exact .live hCourse

end conduct

/-- What asks the endpoint for something over a session. -/
inductive Asks : {α : Type} → Act (Except Failure α) → Prop
  | operation {operation : Operation} : operation.IsData → Asks operation.act
  | beans (pattern : BeanName) : Asks (Session.beans pattern)

/-- The exchanges of an operation that opens no session but the one it needs, and makes no attempt to
go on when that is broken. -/
structure Frugal {α : Type} (before : Session) (result : Outcome (Except Failure α))
    (past : List Exchange) : Prop where
  /-- A session is asked for once if none is open and there are settings for one. -/
  connects : past.countP (·.call.isConnect) =
    if before.isConnected then 0 else if before.connection.config.isSome then 1 else 0
  /-- A session that is found broken is closed, and nothing else is called.  The failure tells of it,
  unless closing breaks down. -/
  breaks : ∀ earlier exchange later session, past = earlier ++ exchange :: later →
    exchange.Breaks session → ∃ outcome, later = [⟨.close session, outcome⟩] ∧
      ((∃ message, result = .value (.error (.connection message))) ∨
        ∃ message message', result = .crash message ∧ outcome = .crash message')

section

variable {α : Type}

theorem stands_start (session : Session) :
    Stands session.connection.config (stage session.connection) session.connection [] := by
  rcases session with ⟨⟨config, _ | handle⟩, stats⟩
  · exact .apart .start
  · exact .live .start

theorem chances_stage (connection : Connection) :
    (stage connection).chances = if connection.isConnected then 0 else 1 := by
  rcases connection with ⟨config, _ | handle⟩ <;> rfl

theorem leaves_asks {act : Act (Except Failure α)} (hAsks : Asks act) (session : Session) :
    Leaves (tracked (mayAt session.connection.config (stage session.connection)))
      (fun result => Told session.connection.config (stage session.connection)
        (Failure.isLoss result)) act session [] := by
  cases hAsks with
  | operation hData => exact conduct_stages.leaves_act hData (stands_start session)
  | beans pattern => exact conduct_stages.leaves_beans pattern (stands_start session)

/-- Where no chance to open a session is left, one was asked for if none was open. -/
theorem connects_of_course {session : Session} {past : List Exchange} {last : Stage}
    (h : Course session.connection.config (stage session.connection) past last)
    (hLast : last = .apart → session.connection.config = none) :
    past.countP (·.call.isConnect) =
      if session.isConnected then 0 else if session.connection.config.isSome then 1 else 0 := by
  have hChances := h.chances
  rw [chances_stage] at hChances
  change _ = if session.connection.isConnected then 0 else _
  by_cases hApart : last = .apart
  · subst hApart
    rw [hLast rfl]
    cases hOpen : session.connection.isConnected with
    | true => simp [hOpen, Stage.chances] at hChances
    | false => simpa [hOpen, Stage.chances] using hChances
  · have hNone : last.chances = 0 := by
      cases last with
      | apart => exact absurd rfl hApart
      | _ => rfl
    have hConfig : session.connection.isConnected = false →
        session.connection.config.isSome = true := by
      intro hClosed
      rcases session with ⟨⟨_ | config, _ | handle⟩, stats⟩
      · exact absurd h.eq_apart hApart
      · nomatch hClosed
      · rfl
      · nomatch hClosed
    rw [hNone] at hChances
    cases hOpen : session.connection.isConnected with
    | true => simpa [hOpen] using hChances
    | false => simpa [hOpen, hConfig hOpen] using hChances

theorem Told.frugal {session : Session} {result : Except Failure α} {after : Connection}
    {past : List Exchange} (h : Told session.connection.config (stage session.connection)
      (Failure.isLoss result) after past) : Frugal session (.value result) past := by
  generalize hLoss : Failure.isLoss result = loss at h
  -- Where the session has not been left broken, a call that broke it was followed by its end.
  have hEnds {last : Stage} (hCourse : Course session.connection.config
      (stage session.connection) past last) (hOver : ∀ handle, last ≠ .broken handle)
      (hLast : last = .apart → session.connection.config = none)
      (hEnded : last = .ended → loss = true) : Frugal session (.value result) past := by
    refine ⟨connects_of_course hCourse hLast, ?_⟩
    intro earlier exchange later handle hPast hBreaks
    rcases hCourse.after_break hPast hBreaks with ⟨-, hBroken⟩ | ⟨⟨outcome, hLater⟩, hLast⟩
    · exact absurd hBroken (hOver handle)
    · obtain ⟨message, rfl⟩ := Failure.isLoss_iff.mp (hLoss.trans (hEnded hLast))
      exact ⟨outcome, hLater, .inl ⟨message, rfl⟩⟩
  cases h with
  | kept hCourse => exact hEnds hCourse nofun nofun nofun
  | lost hCourse => exact hEnds hCourse nofun nofun fun _ => rfl
  | unconfigured hConfig hCourse => exact hEnds hCourse nofun (fun _ => hConfig) nofun

theorem Crashed.frugal {session : Session} {past : List Exchange}
    (h : Crashed (mayAt session.connection.config (stage session.connection)) past)
    (message : Option String) :
    Frugal session (.crash message : Outcome (Except Failure α)) past := by
  obtain ⟨before, call, message', ⟨last, hCourse, hAdmits⟩, rfl⟩ := h
  have hCrashed := hCourse.step (.crashed message' hAdmits)
  refine ⟨connects_of_course hCrashed nofun, ?_⟩
  intro earlier exchange later handle hPast hBreaks
  rcases hCrashed.after_break hPast hBreaks with ⟨-, hBroken⟩ | ⟨⟨outcome, rfl⟩, -⟩
  · nomatch hBroken
  · -- The call that has broken down is the last one, so it is the one that was to close.
    have hSplit : before ++ [⟨call, .crash message'⟩] =
        (earlier ++ [exchange]) ++ [⟨.close handle, outcome⟩] := by
      simpa using hPast
    obtain ⟨-, hLast⟩ := List.append_inj' hSplit rfl
    obtain ⟨⟩ := hLast
    exact ⟨_, rfl, .inr ⟨message, message', rfl, rfl⟩⟩

/-- An operation does not try again over a session that is broken.  Whatever the connector does, and
in whatever state the session is, a session is asked for at most once, and only if none is open; once
a call has found the session broken it is closed, nothing else is called, and the failure tells that
the connection was lost. -/
theorem never_tries_again {κ : Type} (connector : Connector κ) (drift : Nat → κ → κ)
    (session : Session) (inner : κ) {act : Act (Except Failure α)} (hAsks : Asks act) :
    let course := runNoted connector drift act session inner
    Frugal session course.1 (exchanges course.2.2.1) := by
  intro course
  have hEnd := (leaves_asks hAsks session).runNoted connector drift inner
  change course.1.Satisfies _ _ at hEnd
  cases hResult : course.1 with
  | value result =>
    rw [hResult] at hEnd
    have hTold : Told _ _ (Failure.isLoss result) _ _ := hEnd
    exact hTold.frugal
  | crash message =>
    rw [hResult] at hEnd
    have hCrashed : Crashed _ _ := hEnd
    exact hCrashed.frugal message

end

/-- Two beans are read with no session open.  The first is read name by name, and the line breaks at
the second name; nothing is asked of the other bean. -/
theorem never_tries_again_broken_fallback :
    let session : Session := { connection := { config := some (.ofHost "host" 7) } }
    let script : Script := { replies := [{}, { names := ["d:k=1", "d:k=2"] },
      { effect := .fail (.remote "r" "no" "") }, { value := .bool true },
      { effect := .fail (.io "gone" "") }] }
    let act := (Operation.queryMany ⟨"d", [], true⟩ ["a", "b"]).act
    let course := runNoted Script.connector (fun _ => id) act session script
    (exchanges course.2.2.1).map (·.failure?) =
        [none, none, some (.remote "r" "no" ""), none, some (.io "gone" ""), none] ∧
      course.1.elim Failure.isLoss (fun _ => false) = true ∧
      Frugal session course.1 (exchanges course.2.2.1) := by
  intro session script act course
  have hAsks : Asks act := .operation trivial
  refine ⟨by decide +kernel, by decide +kernel, ?_⟩
  with_reducible exact never_tries_again Script.connector (fun _ => id) session script hAsks

end Session

end BeanBridge
