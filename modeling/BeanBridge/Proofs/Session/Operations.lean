import BeanBridge.Proofs.Session.Custody
import BeanBridge.Session.Operation

/-! Operations in keeping with the custody of sessions.  Every operation carries along what is kept
about the session, and its result tells whether one is open after it: each way out that reports a
failure of the connection has given the session up, and each other way out has one open. -/

namespace BeanBridge

/-- The call is made over the session, and leaves it open. -/
def Call.Uses (session : SessionHandle) : Call → Prop
  | names used _ | describe used _ | read used _ _ | readMany used _ _ => used = session
  | connect .. | close _ => False

/-- The custody of a connection in use: it does not depend on the settings, and calls over a session
that is held leave it held. -/
structure Custody.Usable {γ : Type} (custody : Custody γ) (terms : Terms Connection Call.Reply γ) :
    Prop extends custody.Lawful terms where
  loosen : ∀ config session other, custody.held config session other →
    custody.loose config session other
  resetFree : ∀ config later other, custody.free config other → custody.free later other
  resetLoose : ∀ config later session other, custody.loose config session other →
    custody.loose later session other
  use : ∀ config session call other, custody.held config session other → call.Uses session →
    terms.admits call ⟨config, some session⟩ other ∧
      ∀ reply next, terms.answers call other reply next → custody.held config session next

theorem Custody.Usable.knows {γ : Type} {custody : Custody γ} {terms : Terms Connection Call.Reply γ}
    (hUsable : custody.Usable terms) {connection : Connection} {other : γ}
    (h : custody.Keeps connection other) : custody.Knows connection other := by
  obtain ⟨config, session⟩ := connection
  cases session with
  | none => exact h
  | some session => exact hUsable.loosen config session other h

theorem Custody.Usable.reset {γ : Type} {custody : Custody γ} {terms : Terms Connection Call.Reply γ}
    (hUsable : custody.Usable terms) {connection : Connection} {other : γ}
    (h : custody.Knows connection other) (config : Option Config) :
    custody.Knows { connection with config } other := by
  obtain ⟨before, session⟩ := connection
  cases session with
  | none => exact hUsable.resetFree _ _ _ h
  | some session => exact hUsable.resetLoose _ _ _ _ h

/-- The operation asks the endpoint for something over a session. -/
def Operation.IsData : Operation → Prop
  | connect _ | disconnect => False
  | beanNames _ | attributeNames _ | read .. | readMany .. | queryMany .. => True

namespace Session

variable {γ α β : Type}

/-- Whatever is answered on these terms, the action ends like this for the connection. -/
def Leaves (terms : Terms Connection Call.Reply γ) (ending : α → Connection → γ → Prop)
    (act : Act α) (session : Session) (other : γ) : Prop :=
  (act session).Upholds (terms.on Session.connection)
    (fun value after next => ending value after.connection next) other

section Leaves

variable {terms : Terms Connection Call.Reply γ} {ending : α → Connection → γ → Prop}
  {session : Session} {other : γ}

theorem Leaves.bind {ending' : β → Connection → γ → Prop} {act : Act α} {next : α → Act β}
    (h : Leaves terms ending act session other)
    (hNext : ∀ value session other, ending value session.connection other →
      Leaves terms ending' (next value) session other) :
    Leaves terms ending' (act >>= next) session other :=
  Dialogue.Upholds.bind h fun value after other hEnding => hNext value after other hEnding

/-- What is made of the value does not matter for the connection. -/
theorem Leaves.map {ending' : β → Connection → γ → Prop} {act : Act α} {change : α → β}
    (h : Leaves terms ending act session other)
    (hChange : ∀ value connection other, ending value connection other →
      ending' (change value) connection other) :
    Leaves terms ending' (do return change (← act)) session other :=
  h.bind fun value session other => hChange value session.connection other

theorem Leaves.onConnection {act : Connection.Act α}
    (h : (act session.connection).Upholds terms ending other) :
    Leaves terms ending (Session.onConnection act) session other :=
  Dialogue.Upholds.focus (fun _ _ => rfl) h session

/-- Records are kept beside the connection. -/
theorem Leaves.recorded {act : Act α}
    (h : ∀ begun : Session, begun.connection = session.connection →
      Leaves terms ending act begun other)
    (kind bean : String) (attributes : List String) (count : α → Option Nat) :
    Leaves terms ending (Session.recorded kind bean attributes count act) session other := by
  obtain ⟨begun, handle, hBegin, hBegun⟩ : ∃ begun handle,
      beginRecord kind bean attributes session = .done begun handle ∧
        begun.connection = session.connection := ⟨_, _, rfl, rfl⟩
  rw [Leaves, Session.recorded, Action.bind_apply, hBegin]
  show ((act begun).bind _).Upholds _ _ _
  exact Dialogue.Upholds.bind (h begun hBegun) fun value after other hEnding => hEnding

end Leaves

/-- Attributes were not collected because no session is open any more. -/
def Collected.isLoss (collected : Collected) : Bool := collected.failure.any Failure.isConnection

theorem isLoss_settled {refused : ConnectorError → Fault}
    (hRefused : ∀ error, (refused error).failure.isConnection = false)
    (result : Except Failure (Except ConnectorError α)) :
    Failure.isLoss (settled refused result) = Failure.isLoss result := by
  rcases result with failure | error | value
  · rfl
  · exact hRefused error
  · rfl

/-- A request over a session, and what it is made for. -/
inductive Inquiry :
    {α : Type} → Activity → (SessionHandle → Act (Except ConnectorError α)) → Prop
  | names (pattern : BeanName) :
    Inquiry .queryingBeans fun session => Action.ask (Call.names session pattern)
  | describe (bean : BeanName) :
    Inquiry .describingBean fun session => Action.ask (Call.describe session bean)
  | read (bean : BeanName) (name : String) :
    Inquiry .readingAttribute fun session => Action.ask (Call.read session bean name)
  | readMany (bean : BeanName) (names : List String) :
    Inquiry .readingAttributes fun session => Action.ask (Call.readMany session bean names)

/-- The reply shows that the session is broken. -/
def isBroken : Except Failure (Except ConnectorError α) → Bool
  | .ok (.error error) => error.isIo
  | _ => false

/-- After a call that found the session broken `broken` holds, else what is `told` of it. -/
def AfterAttempt (broken : Connection → γ → Prop) (told : Bool → Connection → γ → Prop)
    (result : Except Failure (Except ConnectorError α)) (connection : Connection) (other : γ) : Prop :=
  if isBroken result then broken connection other else told (Failure.isLoss result) connection other

/-- How a session is conducted, whatever is asked of it: `stands` holds before each call over it,
`broken` once a call has found it broken, and what is `told` of it afterwards depends only on whether it
was lost. -/
structure Conduct (terms : Terms Connection Call.Reply γ) (stands broken : Connection → γ → Prop)
    (told : Bool → Connection → γ → Prop) : Prop where
  attempt : ∀ {α : Type} {activity : Activity}
    {request : SessionHandle → Act (Except ConnectorError α)}, Inquiry activity request →
    ∀ (session : Session) (other : γ), stands session.connection other →
      Leaves terms (AfterAttempt broken told) (Session.attempt request) session other
  /-- A broken session is lost when it is given up. -/
  release : ∀ (session : Session) (other : γ), broken session.connection other →
    Leaves terms (fun _ => told true) (onConnection Connection.release) session other
  /-- A session that is not lost can be called again. -/
  again : ∀ connection other, told false connection other → stands connection other

namespace Conduct

variable {terms : Terms Connection Call.Reply γ} {stands broken : Connection → γ → Prop}
  {told : Bool → Connection → γ → Prop} (h : Conduct terms stands broken told) {session : Session}
  {other : γ}

/-- What is made of a result does not matter if it tells the same of the session. -/
theorem map {act : Act α} {change : α → β} {isLoss : α → Bool} {isLoss' : β → Bool}
    (hAct : Leaves terms (fun result => told (isLoss result)) act session other)
    (hSame : ∀ result, isLoss' (change result) = isLoss result) :
    Leaves terms (fun result => told (isLoss' result)) (do return change (← act)) session other := by
  apply hAct.map
  intro result after next hTold
  rw [hSame]
  exact hTold

include h

/-- Giving up a session that was found broken tells that it is lost. -/
theorem givingUp (activity : Activity) {result : Except Failure (Except ConnectorError α)}
    (hTried : AfterAttempt broken told result session.connection other) :
    Leaves terms (fun result => told (Failure.isLoss result)) (Session.givingUp activity result) session
      other := by
  rcases result with failure | error | value
  · exact hTried
  · rw [Session.givingUp]
    cases hIo : error.isIo with
    | true =>
      rw [AfterAttempt, isBroken, if_pos hIo] at hTried
      simp only [if_true]
      exact (h.release session other hTried).map fun _ _ _ => id
    | false =>
      rw [AfterAttempt, isBroken, if_neg (by simp [hIo])] at hTried
      simp only [Bool.false_eq_true, if_false]
      exact hTried
  · exact hTried

theorem call {activity : Activity} {request : SessionHandle → Act (Except ConnectorError α)}
    (hInquiry : Inquiry activity request) (session : Session) (other : γ)
    (hStands : stands session.connection other) :
    Leaves terms (fun result => told (Failure.isLoss result)) (Session.call activity request) session
      other :=
  (h.attempt hInquiry session other hStands).bind fun _ _ _ hTried => h.givingUp activity hTried

theorem leaves_beans (pattern : BeanName) (hStands : stands session.connection other) :
    Leaves terms (fun result => told (Failure.isLoss result)) (beans pattern) session other := by
  refine Leaves.recorded (fun begun hBegun => ?_) "queryMBeans" pattern.text [] _
  exact map (h.call (.names pattern) begun other (hBegun ▸ hStands)) (isLoss_settled fun _ => rfl)

theorem leaves_beanNames (pattern : BeanName) (hStands : stands session.connection other) :
    Leaves terms (fun result => told (Failure.isLoss result)) (beanNames pattern) session other :=
  map (h.leaves_beans pattern hStands) (Failure.isLoss_map _)

theorem leaves_attributeNames (bean : BeanName) (hStands : stands session.connection other) :
    Leaves terms (fun result => told (Failure.isLoss result)) (attributeNames bean) session other := by
  refine map (Leaves.recorded (fun begun hBegun => ?_) "getMBeanInfo" bean.text [] _)
    (Failure.isLoss_map _)
  exact map (h.call (.describe bean) begun other (hBegun ▸ hStands)) (isLoss_settled fun _ => rfl)

theorem leaves_fetch (bean : BeanName) (name : String) (hStands : stands session.connection other) :
    Leaves terms (fun result => told (Failure.isLoss result)) (fetch bean name) session other := by
  refine map (h.call (.read bean name) session other hStands) fun result => ?_
  have hSettled : Failure.isLoss (settled (.attributeRefused name bean) result) =
      Failure.isLoss result := isLoss_settled (fun _ => rfl) result
  rw [← hSettled]
  cases settled (.attributeRefused name bean) result with
  | error failure => rfl
  | ok value => cases hValue : value.flatten (qualifiedName bean name) <;> simp [hValue] <;> rfl

theorem leaves_read (bean : BeanName) (name : String) (hStands : stands session.connection other) :
    Leaves terms (fun result => told (Failure.isLoss result)) (read bean name) session other :=
  Leaves.recorded (fun _ hBegun => h.leaves_fetch bean name (hBegun ▸ hStands)) _ _ _ _

/-- A session that is open is lost with one of the reads or open after the last. -/
theorem leaves_fetchEach (bean : BeanName) (names : List String)
    (hOpen : told false session.connection other) :
    Leaves terms (fun collected => told (Collected.isLoss collected)) (fetchEach bean names) session
      other := by
  induction names generalizing session other with
  | nil => exact hOpen
  | cons name names ih =>
    refine (h.leaves_fetch bean name (h.again _ _ hOpen)).bind ?_
    rintro (failure | entries) after next hTold
    -- Reading stops at a failure of the connection, and no other ends the session.
    · cases failure with
      | connection message => exact hTold
      | operation message cause stacktrace => exact map (ih hTold) fun _ => rfl
    · exact map (ih hTold) fun _ => rfl

theorem leaves_readNamed (bean : BeanName) (names : List String)
    (hStands : stands session.connection other) :
    Leaves terms (fun collected => told (Collected.isLoss collected)) (readNamed bean names) session
      other := by
  refine (Leaves.recorded (fun begun hBegun => h.attempt (.readMany bean names) begun other
    (hBegun ▸ hStands)) "getAttributes" bean.text names _).bind fun _ _ _ hTried =>
      (h.givingUp .readingAttributes hTried).bind ?_
  rintro (failure | error | values) after next hTold
  · exact hTold
  · exact h.leaves_fetchEach bean names hTold
  · exact hTold

theorem leaves_readMany (bean : BeanName) (names : List String)
    (hStands : stands session.connection other) :
    Leaves terms (fun collected => told (Collected.isLoss collected)) (readMany bean names) session
      other := by
  rw [readMany]
  split
  · refine (h.leaves_attributeNames bean hStands).bind ?_
    rintro (failure | names) after next hTold
    · exact hTold
    · exact h.leaves_readNamed bean names (h.again _ _ hTold)
  · exact h.leaves_readNamed bean names hStands

/-- With no bean to read nothing is done, so a session has to be open then. -/
theorem leaves_readEach (names : List String) (beans : List BeanName)
    (hStands : stands session.connection other)
    (hOpen : beans = [] → told false session.connection other) :
    Leaves terms (fun result => told (Failure.isLoss result)) (readEach names beans) session
      other := by
  induction beans generalizing session other with
  | nil => exact hOpen rfl
  | cons bean beans ih =>
    refine (h.leaves_readMany bean names hStands).bind ?_
    rintro ⟨entries, failure⟩ after next hTold
    cases failure with
    | some failure => exact hTold
    | none => exact map (ih (h.again _ _ hTold) fun _ => hTold) (Failure.isLoss_map _)

theorem leaves_queryMany (pattern : BeanName) (names : List String)
    (hStands : stands session.connection other) :
    Leaves terms (fun result => told (Failure.isLoss result)) (queryMany pattern names) session
      other := by
  rw [queryMany]
  split
  · refine (h.leaves_beans pattern hStands).bind ?_
    rintro (failure | beans) after next hTold
    · exact hTold
    · exact h.leaves_readEach names beans (h.again _ _ hTold) fun _ => hTold
  · exact h.leaves_readEach names [pattern] hStands nofun

theorem leaves_act {operation : Operation} (hData : operation.IsData)
    (hStands : stands session.connection other) :
    Leaves terms (fun result => told (Failure.isLoss result)) operation.act session other := by
  cases operation with
  | connect config => nomatch hData
  | disconnect => nomatch hData
  | beanNames pattern => exact map (h.leaves_beanNames pattern hStands) (Failure.isLoss_map _)
  | attributeNames bean => exact map (h.leaves_attributeNames bean hStands) (Failure.isLoss_map _)
  | read bean name => exact map (h.leaves_read bean name hStands) (Failure.isLoss_map _)
  | readMany bean names =>
    apply map (h.leaves_readMany bean names hStands)
    rintro ⟨entries, failure⟩
    cases failure <;> rfl
  | queryMany pattern names =>
    exact map (h.leaves_queryMany pattern names hStands) (Failure.isLoss_map _)

end Conduct

section operations

variable {terms : Terms Connection Call.Reply γ} {custody : Custody γ}
  (hUsable : custody.Usable terms) {session : Session} {other : γ}
include hUsable

theorem leaves_ask (call : Call) {handle : SessionHandle} (hUses : call.Uses handle)
    (h : custody.Keeps session.connection other)
    (hHandle : session.connection.session = some handle) :
    Leaves terms (fun _ after next => after = session.connection ∧ custody.Keeps after next)
      (Action.ask call) session other := by
  obtain ⟨⟨config, held⟩, stats⟩ := session
  obtain rfl : held = some handle := hHandle
  obtain ⟨hAdmits, hHeld⟩ := hUsable.use config handle call other h hUses
  refine ⟨hAdmits, fun reply later next hDrifts hAnswers => ?_⟩
  have hSame : later.connection = ⟨config, some handle⟩ := hUsable.still _ _ hDrifts
  refine ⟨hSame, ?_⟩
  rw [hSame]
  exact hHeld reply next hAnswers

/-- The session is still held after a call over it, even when it was found broken. -/
theorem leaves_attempt {request : SessionHandle → Act (Except ConnectorError α)}
    (hRequest : ∀ handle session other, custody.Keeps session.connection other →
      session.connection.session = some handle →
      Leaves terms (fun _ after next => after = session.connection ∧ custody.Keeps after next)
        (request handle) session other)
    (h : custody.Keeps session.connection other) :
    Leaves terms (custody.Tells Failure.isLoss) (attempt request) session other := by
  refine (Leaves.onConnection (Connection.upholds_ensure hUsable.toLawful h)).bind ?_
  rintro (failure | handle) session other ⟨hKeeps, -, hResult⟩
  · obtain ⟨hClosed, hReason⟩ := hResult
    refine ⟨hKeeps, hClosed.trans ?_⟩
    rcases hReason with rfl | ⟨config, error, rfl⟩ <;> rfl
  · have hOpen : session.connection.isConnected = true := by
      rw [Connection.isConnected, hResult]
      rfl
    refine (hRequest handle session other hKeeps hResult).map ?_
    rintro reply after next ⟨rfl, hKeeps⟩
    exact ⟨hKeeps, hOpen⟩

theorem leaves_connect (config : Config) (h : custody.Keeps session.connection other) :
    Leaves terms (custody.Tells Failure.isLoss) (connect config) session other := by
  have hKnows : custody.Knows { session.connection with config := some config } other :=
    hUsable.reset (hUsable.knows h) (some config)
  refine Leaves.recorded (fun begun hBegun => .onConnection ?_) "connect" "" [] _
  have hBegun : begun.connection = session.connection := hBegun
  rw [hBegun]
  exact Connection.upholds_connect hUsable.toLawful config hKnows

theorem leaves_disconnect (h : custody.Keeps session.connection other) :
    Leaves terms (fun result after next => custody.Keeps after next ∧ after.isConnected = false ∧
      Failure.isLoss result = !session.isConnected ∧
      (result = .ok () ∨ result = .error Fault.notConnected.failure)) disconnect session other := by
  refine Leaves.recorded (fun begun hBegun => .onConnection ?_) "disconnect" "" [] _
  rw [hBegun]
  refine (Connection.upholds_disconnect hUsable.toLawful (hUsable.knows h)).mono ?_
  rintro result after next ⟨hKeeps, rfl, hLoss, hResult⟩
  exact ⟨hKeeps, rfl, hLoss, hResult⟩

/-- Every operation but those that open and close sessions carries along what is kept, and tells
whether a session is open. -/
theorem conduct : Conduct terms custody.Keeps custody.Keeps
    fun loss connection other => custody.Keeps connection other ∧ connection.isConnected = !loss where
  attempt {α _ request} hInquiry session other h := by
    have hUses : ∀ handle session other, custody.Keeps session.connection other →
        session.connection.session = some handle →
        Leaves terms (fun _ after next => after = session.connection ∧ custody.Keeps after next)
          (request handle) session other := by
      intro handle session other hKeeps hHandle
      cases hInquiry with
      | names pattern => exact leaves_ask hUsable (.names handle pattern) rfl hKeeps hHandle
      | describe bean => exact leaves_ask hUsable (.describe handle bean) rfl hKeeps hHandle
      | read bean name => exact leaves_ask hUsable (.read handle bean name) rfl hKeeps hHandle
      | readMany bean names =>
        exact leaves_ask hUsable (.readMany handle bean names) rfl hKeeps hHandle
    refine (leaves_attempt hUsable hUses h).mono ?_
    intro result after next hTells
    rw [AfterAttempt]
    split
    · exact hTells.1
    · exact hTells
  release session other h := by
    refine (Leaves.onConnection
      (Connection.upholds_release hUsable.toLawful (hUsable.knows h))).mono ?_
    rintro released after next ⟨-, hAfter, hFree⟩
    rw [hAfter]
    exact ⟨hFree, rfl⟩
  again _ _ hTold := hTold.1

end operations

/-- Whatever the operation but disconnecting, the failure of a connection tells that no session is
open. -/
theorem leaves_act {terms : Terms Connection Call.Reply γ} {custody : Custody γ}
    (hUsable : custody.Usable terms) {session : Session} {other : γ} {operation : Operation}
    (hOther : operation ≠ .disconnect) (h : custody.Keeps session.connection other) :
    Leaves terms (custody.Tells Failure.isLoss) operation.act session other := by
  by_cases hData : operation.IsData
  · exact (conduct hUsable).leaves_act hData h
  · cases operation with
    | connect config =>
      exact (leaves_connect hUsable config h).map
        fun result _ _ hTells => hTells.congr (Failure.isLoss_map _ result)
    | disconnect => exact absurd rfl hOther
    | _ => exact absurd trivial hData

/-- Every operation carries along what is kept. -/
theorem leaves_act_keeps {terms : Terms Connection Call.Reply γ} {custody : Custody γ}
    (hUsable : custody.Usable terms) {session : Session} {other : γ} (operation : Operation)
    (h : custody.Keeps session.connection other) :
    Leaves terms (fun _ after next => custody.Keeps after next) operation.act session other := by
  by_cases hOther : operation = .disconnect
  · subst hOther
    exact (leaves_disconnect hUsable h).map fun _ _ _ hEnd => hEnd.1
  · exact (leaves_act hUsable hOther h).mono fun _ _ _ hTells => hTells.1

end Session

end BeanBridge
