import BeanBridge.Proofs.Session.Collecting
import BeanBridge.Proofs.Stats.Holding

/-! Doings of a session and their records.  What a session does falls into errands, which are
recorded, and reads of single attributes in place of a batch, which are not.  An errand makes one call
of its own, after one for a session where none is open; its record is told by that call alone. -/

namespace BeanBridge

/-- What a record stands for. -/
inductive Deed where
  | connect
  | disconnect
  | query (pattern : BeanName)
  | describe (bean : BeanName)
  | read (bean : BeanName) (name : String)
  | readMany (bean : BeanName) (names : List String)
  deriving DecidableEq

namespace Deed

def kind : Deed → String
  | connect => "connect"
  | disconnect => "disconnect"
  | query _ => "queryMBeans"
  | describe _ => "getMBeanInfo"
  | read .. => "getAttribute"
  | readMany .. => "getAttributes"

def subject : Deed → String
  | connect | disconnect => ""
  | query bean | describe bean | read bean _ | readMany bean _ => bean.text

def attributes : Deed → List String
  | connect | disconnect | query _ | describe _ => []
  | read _ name => [name]
  | readMany _ names => names

/-- Something is asked for over a session. -/
def isData : Deed → Bool
  | connect | disconnect => false
  | query _ | describe _ | read .. | readMany .. => true

end Deed

def Call.deed : Call → Deed
  | connect .. => .connect
  | close _ => .disconnect
  | names _ pattern => .query pattern
  | describe _ bean => .describe bean
  | read _ bean name => .read bean name
  | readMany _ bean asked => .readMany bean asked

namespace Exchange

/-- The call opens or closes a session. -/
def isIdle (exchange : Exchange) : Bool := !exchange.call.deed.isData

/-- How many values the exchange has delivered, if it has.  A value counts by its entries. -/
def delivered? : Exchange → Option Nat
  | ⟨.connect .., .value (.ok _)⟩ | ⟨.close _, .value _⟩ => some 0
  | ⟨.names .., .value (.ok names)⟩ => some names.length
  | ⟨.describe .., .value (.ok info)⟩ => some info.attributes.length
  | ⟨.read _ bean name, .value (.ok value)⟩ =>
    (value.flatten (Session.qualifiedName bean name)).toOption.map List.length
  | ⟨.readMany .., .value (.ok values)⟩ => some values.length
  | _ => none

end Exchange

/-- How a deed was gone about. -/
structure Errand where
  deed : Deed
  opening : List Exchange := []
  /-- The call of the deed itself. -/
  own? : Option Exchange
  closing : List Exchange := []
  own_deed : ∀ exchange ∈ own?, exchange.call.deed = deed
  opening_isIdle : opening.all Exchange.isIdle = true
  closing_isIdle : closing.all Exchange.isIdle = true
  /-- There is no call if nothing is open to be closed, or no session can be opened for it. -/
  own_absent : own? = none →
    deed = .disconnect ∨ deed.isData = true ∧ opening.any Exchange.isFatal = true

namespace Errand

def stretch (errand : Errand) : List Exchange :=
  errand.opening ++ errand.own?.toList ++ errand.closing

/-- How many values the call has delivered. -/
def count? (errand : Errand) : Option Nat := errand.own?.bind Exchange.delivered?

/-- The record of the errand, but for the clock. -/
def record (errand : Errand) : Stat where
  kind := errand.deed.kind
  bean := errand.deed.subject
  attributes := errand.deed.attributes
  responseCount := .ofNat (errand.count?.getD 0)
  successful := errand.count?.isSome

theorem isIdle_or_deed (errand : Errand) {exchange : Exchange} (h : exchange ∈ errand.stretch) :
    exchange.isIdle = true ∨ exchange.call.deed = errand.deed := by
  rcases List.mem_append.mp h with hEarlier | hClosing
  · rcases List.mem_append.mp hEarlier with hOpening | hOwn
    · exact .inl (List.all_eq_true.mp errand.opening_isIdle exchange hOpening)
    · exact .inr (errand.own_deed exchange (Option.mem_toList.mp hOwn))
  · exact .inl (List.all_eq_true.mp errand.closing_isIdle exchange hClosing)

/-- An errand that comes to its call. -/
def calling (own : Exchange) (opening closing : List Exchange)
    (hOpening : opening.all Exchange.isIdle = true)
    (hClosing : closing.all Exchange.isIdle = true) : Errand where
  deed := own.call.deed
  opening := opening
  own? := some own
  closing := closing
  own_deed := by rintro _ ⟨⟩; rfl
  opening_isIdle := hOpening
  closing_isIdle := hClosing
  own_absent := nofun

/-- An errand that ends before its call. -/
def stopped (deed : Deed) (opening : List Exchange)
    (hOpening : opening.all Exchange.isIdle = true)
    (hAbsent : deed = .disconnect ∨ deed.isData = true ∧ opening.any Exchange.isFatal = true) :
    Errand where
  deed := deed
  opening := opening
  own? := none
  own_deed := nofun
  opening_isIdle := hOpening
  closing_isIdle := rfl
  own_absent := fun _ => hAbsent

section

variable {own : Exchange} {opening closing : List Exchange}
  {hOpening : opening.all Exchange.isIdle = true}

theorem stretch_calling {hClosing : closing.all Exchange.isIdle = true} :
    (calling own opening closing hOpening hClosing).stretch = opening ++ own :: closing := by
  rw [stretch, calling, Option.toList_some, List.append_assoc, List.singleton_append]

theorem stretch_stopped {deed : Deed}
    {hAbsent : deed = .disconnect ∨ deed.isData = true ∧ opening.any Exchange.isFatal = true} :
    (stopped deed opening hOpening hAbsent).stretch = opening := by
  rw [stretch, stopped, Option.toList_none, List.append_nil, List.append_nil]

end

/-- The errand with more sessions given up behind its call. -/
def closedBy (errand : Errand) (closing : List Exchange)
    (hClosing : closing.all Exchange.isIdle = true) : Errand :=
  { errand with
    closing := errand.closing ++ closing
    closing_isIdle := by rw [List.all_append, errand.closing_isIdle, hClosing]; rfl }

theorem stretch_closedBy (errand : Errand) {closing : List Exchange}
    (hClosing : closing.all Exchange.isIdle = true) :
    (errand.closedBy closing hClosing).stretch = errand.stretch ++ closing :=
  (List.append_assoc _ _ _).symm

end Errand

/-- A part of what a session does. -/
inductive Doing where
  | errand (errand : Errand)
  /-- Attributes read one by one, without a record. -/
  | singles (stretch : List Exchange)

namespace Doing

def stretch : Doing → List Exchange
  | errand made => made.stretch
  | singles stretch => stretch

def record? : Doing → Option Stat
  | errand made => some made.record
  | singles _ => none

end Doing

namespace Session

variable {α β : Type}

/-- What is seen of a session that nobody else uses, but for the clock. -/
def timeless (session : Session) : Connection × Stats :=
  (session.connection, session.stats.timeless)

/-- Any call may be made, and until it is answered only the clock goes on. -/
abbrev alone : Terms Session Call.Reply (List Exchange) := noting timeless anyCall

def configured (connection : Connection) : Prop := connection.config.isSome = true

/-- The act makes exchanges like these, and leaves the records alone. -/
def Makes (before : Connection → Prop) (Q : α → List Exchange → Prop) (act : Act α) : Prop :=
  ∀ session past, before session.connection →
    (act session).Upholds alone (fun value after later => configured after.connection ∧
      after.stats.timeless = session.stats.timeless ∧
      ∃ stretch, later = past ++ stretch ∧ Q value stretch) past

/-- The act does doings like these, and records them. -/
def Recounts (before : Connection → Prop) (P : α → List Doing → Prop) (act : Act α) : Prop :=
  ∀ (capacity base : Nat) (records : List Stat) (session : Session) (past : List Exchange),
    0 < capacity → before session.connection →
    session.stats.timeless = .holding capacity base records →
    (act session).Upholds alone (fun value after later => configured after.connection ∧
      ∃ doings : List Doing, later = past ++ doings.flatMap (·.stretch) ∧ P value doings ∧
        after.stats.timeless = .holding capacity base (records ++ doings.filterMap (·.record?)))
      past

section combinators

variable {before : Connection → Prop} {Q : α → List Exchange → Prop} {P : α → List Doing → Prop}

theorem makes_pure {value : α} (h : Q value []) : Makes configured Q (pure value) :=
  fun _ past hBefore => ⟨hBefore, rfl, [], (List.append_nil past).symm, h⟩

theorem Makes.bind {Q' : β → List Exchange → Prop} {act : Act α} {next : α → Act β}
    (h : Makes before Q act)
    (hNext : ∀ value stretch, Q value stretch →
      Makes configured (fun result later => Q' result (stretch ++ later)) (next value)) :
    Makes before Q' (act >>= next) := by
  intro session past hBefore
  refine (h session past hBefore).bind ?_
  rintro value between _ ⟨hConfigured, hStats, stretch, rfl, hStretch⟩
  refine (hNext value stretch hStretch between _ hConfigured).mono ?_
  rintro result after _ ⟨hAfter, hSame, later, rfl, hResult⟩
  exact ⟨hAfter, hSame.trans hStats, stretch ++ later, List.append_assoc _ _ _, hResult⟩

theorem Makes.map {Q' : β → List Exchange → Prop} {act : Act α} {change : α → β}
    (h : Makes before Q act)
    (hChange : ∀ value stretch, Q value stretch → Q' (change value) stretch) :
    Makes before Q' (do return change (← act)) :=
  h.bind fun value stretch hStretch =>
    makes_pure (by rw [List.append_nil]; exact hChange value stretch hStretch)

theorem Makes.mono {Q' : α → List Exchange → Prop} {act : Act α} (h : Makes before Q act)
    (hStretch : ∀ value stretch, Q value stretch → Q' value stretch) : Makes before Q' act := by
  intro session past hBefore
  refine (h session past hBefore).mono ?_
  rintro value after later ⟨hAfter, hSame, stretch, hLater, hValue⟩
  exact ⟨hAfter, hSame, stretch, hLater, hStretch value stretch hValue⟩

theorem recounts_pure {value : α} (h : P value []) : Recounts configured P (pure value) :=
  fun _ _ records _ past _ hBefore hStats =>
    ⟨hBefore, [], (List.append_nil past).symm, h, hStats.trans
      (congrArg _ (List.append_nil records).symm)⟩

theorem Recounts.bind {P' : β → List Doing → Prop} {act : Act α} {next : α → Act β}
    (h : Recounts before P act)
    (hNext : ∀ value doings, P value doings →
      Recounts configured (fun result later => P' result (doings ++ later)) (next value)) :
    Recounts before P' (act >>= next) := by
  intro capacity base records session past hCapacity hBefore hStats
  refine (h capacity base records session past hCapacity hBefore hStats).bind ?_
  rintro value between _ ⟨hConfigured, doings, rfl, hDoings, hHolding⟩
  refine (hNext value doings hDoings capacity base _ between _ hCapacity hConfigured hHolding).mono ?_
  rintro result after _ ⟨hAfter, later, rfl, hResult, hLater⟩
  refine ⟨hAfter, doings ++ later, ?_, hResult, ?_⟩
  · rw [List.flatMap_append, List.append_assoc]
  · rw [hLater, List.filterMap_append, List.append_assoc]

theorem Recounts.map {P' : β → List Doing → Prop} {act : Act α} {change : α → β}
    (h : Recounts before P act)
    (hChange : ∀ value doings, P value doings → P' (change value) doings) :
    Recounts before P' (do return change (← act)) :=
  h.bind fun value doings hDoings =>
    recounts_pure (by rw [List.append_nil]; exact hChange value doings hDoings)

theorem Recounts.mono {P' : α → List Doing → Prop} {act : Act α} (h : Recounts before P act)
    (hDoings : ∀ value doings, P value doings → P' value doings) : Recounts before P' act := by
  intro capacity base records session past hCapacity hBefore hStats
  refine (h capacity base records session past hCapacity hBefore hStats).mono ?_
  rintro value after later ⟨hAfter, doings, hPast, hValue, hHolding⟩
  exact ⟨hAfter, doings, hPast, hDoings value doings hValue, hHolding⟩

/-- What leaves the records alone is a doing without a record. -/
theorem Makes.recounts {act : Act α} (h : Makes before Q act) :
    Recounts before (fun value doings => ∃ stretch, doings = [.singles stretch] ∧ Q value stretch)
      act := by
  intro capacity base records session past hCapacity hBefore hStats
  refine (h session past hBefore).mono ?_
  rintro value after _ ⟨hAfter, hSame, stretch, rfl, hStretch⟩
  refine ⟨hAfter, [.singles stretch], ?_, ⟨stretch, rfl, hStretch⟩, ?_⟩
  · rw [List.flatMap_singleton]
    rfl
  · rw [hSame, hStats]
    exact congrArg _ (List.append_nil records).symm

/-- The exchanges are those of an errand for the deed. -/
def Through (deed : Deed) (R : α → Errand → Prop) (value : α) (stretch : List Exchange) : Prop :=
  ∃ errand : Errand, errand.deed = deed ∧ errand.stretch = stretch ∧ R value errand

/-- The errand is the only doing. -/
def Single (deed : Deed) (R : α → Errand → Prop) (value : α) (doings : List Doing) : Prop :=
  ∃ errand : Errand, errand.deed = deed ∧ doings = [.errand errand] ∧ R value errand

/-- A recorded errand is a doing, if it counts what the call has delivered. -/
theorem Makes.recorded {R : α → Errand → Prop} {act : Act α} {count : α → Option Nat} {deed : Deed}
    (h : Makes before (Through deed R) act)
    (hCount : ∀ value errand, R value errand → errand.count? = count value) :
    Recounts before (Single deed R)
      (Session.recorded deed.kind deed.subject deed.attributes count act) := by
  intro capacity base records session past hCapacity hBefore hStats
  obtain ⟨hHandle, hBegun⟩ :=
    Stats.begin_holding hCapacity hStats deed.kind deed.subject deed.attributes
  let begun : Session := { session with
    stats := ((session.stats.record deed.kind).2.setBean (session.stats.record deed.kind).1
      deed.subject).setAttributes (session.stats.record deed.kind).1 deed.attributes }
  have hAct : (act begun).Upholds alone _ past := h begun past hBefore
  show ((act begun).bind _).Upholds alone _ past
  refine hAct.bind ?_
  rintro value after _ ⟨hAfter, hSame, _, rfl, errand, rfl, rfl, hErrand⟩
  refine ⟨hAfter, [.errand errand], ?_, ⟨errand, rfl, rfl, hErrand⟩, ?_⟩
  · rw [List.flatMap_singleton]
    rfl
  · have hFinish := Stats.finish_holding hCapacity (hSame.trans hBegun) hHandle (count value)
    refine hFinish.trans ?_
    congr 2
    rw [← hCount value errand hErrand]
    cases hFound : errand.count? <;> simp [Doing.record?, Errand.record, hFound]

/-- Sessions that are given up behind a recorded errand belong to it.  Its record ends before. -/
theorem Recounts.closing {R : α → Errand → Prop} {R' : β → Errand → Prop}
    {Q : α → β → List Exchange → Prop} {act : Act α} {next : α → Act β} {deed : Deed}
    (h : Recounts before (Single deed R) act) (hNext : ∀ value, Makes configured (Q value) (next value))
    (hClosed : ∀ value result errand closing, R value errand → Q value result closing →
      ∃ hClosing, R' result (errand.closedBy closing hClosing)) :
    Recounts before (Single deed R') (act >>= next) := by
  intro capacity base records session past hCapacity hBefore hStats
  refine (h capacity base records session past hCapacity hBefore hStats).bind ?_
  rintro value between _ ⟨hConfigured, _, rfl, ⟨errand, rfl, rfl, hErrand⟩, hHolding⟩
  refine (hNext value between _ hConfigured).mono ?_
  rintro result after _ ⟨hAfter, hSame, closing, rfl, hResult⟩
  obtain ⟨hClosing, hErrand⟩ := hClosed value result errand closing hErrand hResult
  refine ⟨hAfter, [.errand (errand.closedBy closing hClosing)], ?_,
    ⟨errand.closedBy closing hClosing, rfl, rfl, hErrand⟩, hSame.trans hHolding⟩
  rw [List.flatMap_singleton, List.flatMap_singleton, List.append_assoc]
  exact congrArg _ (errand.stretch_closedBy hClosing).symm

end combinators

/-! ### Calls -/

section calls

variable {α : Type} {deed : Deed} {gives : α → Option Nat}
  {own : SessionHandle → Except ConnectorError α → Exchange}

theorem upholds_onConnection {act : Connection.Act α} {session : Session} {past : List Exchange}
    {ending : α → Connection → List Exchange → Prop}
    (h : (act session.connection).Upholds (tracked anyCall) ending past) :
    (onConnection act session).Upholds alone (fun value after later =>
      ending value after.connection later ∧ after.stats.timeless = session.stats.timeless) past := by
  show ((act session.connection).focus Session.connection _ session).Upholds _ _ _
  generalize act session.connection = dialogue at h
  induction dialogue generalizing session past with
  | done connection value => exact ⟨h, rfl⟩
  | ask connection call resume ih =>
    refine ⟨trivial, fun reply later next hDrifts hAnswers => ?_⟩
    -- Only the clock goes on until the reply, so connection and records are those of the call.
    obtain ⟨hConnection, hStats⟩ := Prod.mk.inj hDrifts
    exact (ih reply _ (h.2 reply later.connection next hConnection hAnswers)).mono
      fun _ _ _ hEnding => ⟨hEnding.1, hEnding.2.trans hStats⟩

theorem makes_onConnection {before : Connection → Prop} {act : Connection.Act α}
    {Q : α → List Exchange → Prop}
    (h : ∀ connection past, before connection →
      (act connection).Upholds (tracked anyCall) (fun value after later => configured after ∧
        ∃ stretch, later = past ++ stretch ∧ Q value stretch) past) :
    Makes before Q (onConnection act) := by
  intro session past hBefore
  refine (upholds_onConnection (h session.connection past hBefore)).mono ?_
  rintro value after _ ⟨⟨hAfter, stretch, rfl, hStretch⟩, hStats⟩
  exact ⟨hAfter, hStats, stretch, rfl, hStretch⟩

/-- The exchanges of giving up the open session, if there is one. -/
inductive Closing : Bool → List Exchange → Prop
  | absent : Closing false []
  | closed (handle : SessionHandle) (reply : (Call.close handle).Reply) :
    Closing true [⟨.close handle, .value reply⟩]

theorem upholds_release_closing (connection : Connection) (past : List Exchange) :
    (Connection.release connection).Upholds (tracked anyCall) (fun released after later =>
      after = { connection with session := none } ∧
        ∃ stretch, later = past ++ stretch ∧ Closing released stretch) past := by
  obtain ⟨config, _ | handle⟩ := connection
  · exact ⟨rfl, [], (List.append_nil past).symm, .absent⟩
  · refine ⟨trivial, ?_⟩
    rintro reply _ _ rfl rfl
    exact ⟨rfl, _, rfl, .closed handle reply⟩

theorem Closing.isIdle {released : Bool} {stretch : List Exchange} (h : Closing released stretch) :
    stretch.all Exchange.isIdle = true := by
  cases h <;> rfl

theorem makes_release :
    Makes configured (fun _ stretch => stretch.all Exchange.isIdle = true)
      (onConnection Connection.release) := by
  apply makes_onConnection
  intro connection past hBefore
  refine (upholds_release_closing connection past).mono ?_
  rintro released _ _ ⟨rfl, stretch, rfl, hClosing⟩
  exact ⟨hBefore, stretch, rfl, hClosing.isIdle⟩

/-- The call has delivered something, though nothing that counts, if the result is a success. -/
def Settles {ε : Type} (result : Except ε α) (errand : Errand) : Prop :=
  errand.count? = countOk (fun _ => 0) result

theorem upholds_openWith (config : Config) (connection : Connection) (past : List Exchange) :
    (Connection.openWith config connection).Upholds (tracked anyCall) (fun result after later =>
      after.config = connection.config ∧
        ∃ stretch, later = past ++ stretch ∧ Through .connect Settles result stretch) past := by
  refine (upholds_release_closing connection past).bind ?_
  rintro released _ _ ⟨rfl, closing, rfl, hClosing⟩
  -- The session that was open is closed before another is asked for.
  refine ⟨trivial, ?_⟩
  rintro (error | handle) _ _ rfl rfl
  · exact ⟨rfl, _, List.append_assoc _ _ _,
      .calling _ closing [] hClosing.isIdle List.all_nil, rfl, Errand.stretch_calling, rfl⟩
  · exact ⟨rfl, _, List.append_assoc _ _ _,
      .calling _ closing [] hClosing.isIdle List.all_nil, rfl, Errand.stretch_calling, rfl⟩

theorem makes_connect (config : Config) :
    Makes (fun _ => True) (Through .connect Settles) (onConnection (Connection.connect config)) := by
  apply makes_onConnection
  intro connection past _
  refine (upholds_openWith config { connection with config := some config } past).mono ?_
  rintro result after later ⟨hConfig, hStretch⟩
  exact ⟨by rw [configured, hConfig]; rfl, hStretch⟩

theorem makes_disconnect :
    Makes configured (Through .disconnect Settles) (onConnection Connection.disconnect) := by
  apply makes_onConnection
  intro connection past hBefore
  refine (upholds_release_closing connection past).bind ?_
  rintro released _ _ ⟨rfl, closing, rfl, hClosing⟩
  cases hClosing with
  | absent =>
    exact ⟨hBefore, _, rfl, .stopped .disconnect [] List.all_nil (.inl rfl), rfl,
      Errand.stretch_stopped, rfl⟩
  | closed handle reply =>
    exact ⟨hBefore, _, rfl, .calling ⟨.close handle, .value reply⟩ [] [] List.all_nil List.all_nil,
      rfl, Errand.stretch_calling, rfl⟩

/-- How a session for a call is found. -/
structure Found (result : Except Failure SessionHandle) (stretch : List Exchange) : Prop where
  isIdle : stretch.all Exchange.isIdle = true
  fatal : stretch.any Exchange.isFatal = Failure.isLoss result
  loss : ∀ failure, result = .error failure → failure.isConnection = true

theorem makes_ensure : Makes configured Found (onConnection Connection.ensure) := by
  apply makes_onConnection
  rintro ⟨config, _ | handle⟩ past hBefore
  · obtain ⟨settings, rfl⟩ := Option.isSome_iff_exists.mp hBefore
    refine ⟨trivial, ?_⟩
    rintro (error | handle) _ _ rfl rfl
    · exact ⟨rfl, _, rfl, rfl, rfl, by rintro _ ⟨⟩; rfl⟩
    · exact ⟨rfl, _, rfl, rfl, rfl, nofun⟩
  · exact ⟨hBefore, [], (List.append_nil past).symm, rfl, rfl, nofun⟩

theorem makes_ask (call : Call) :
    Makes configured (fun reply stretch => stretch = [⟨call, .value reply⟩]) (Action.ask call) := by
  intro session past hBefore
  refine ⟨trivial, ?_⟩
  rintro reply later _ hDrifts rfl
  obtain ⟨hConnection, hStats⟩ := Prod.mk.inj hDrifts
  exact ⟨hConnection ▸ hBefore, hStats, _, rfl, rfl⟩

/-- The exchange of a call over a session, made for a deed. -/
structure Own (deed : Deed) (gives : α → Option Nat)
    (own : SessionHandle → Except ConnectorError α → Exchange) : Prop where
  isData : deed.isData = true
  deed_eq : ∀ handle reply, (own handle reply).call.deed = deed
  delivered : ∀ handle value, (own handle (.ok value)).delivered? = gives value
  refused : ∀ handle error, (own handle (.error error)).delivered? = none
  calm : ∀ handle value, (own handle (.ok value)).isFatal = false
  fatal : ∀ handle error, (own handle (.error error)).isFatal = error.isIo

def delivery (gives : α → Option Nat) : Except Failure (Except ConnectorError α) → Option Nat
  | .ok (.ok value) => gives value
  | _ => none

/-- How the call over a session goes until the session may be given up. -/
structure Attempts (gives : α → Option Nat)
    (own : SessionHandle → Except ConnectorError α → Exchange)
    (result : Except Failure (Except ConnectorError α)) (errand : Errand) : Prop where
  count : errand.count? = delivery gives result
  fatal : errand.stretch.any Exchange.isFatal = (isBroken result || Failure.isLoss result)
  loss : ∀ failure, result = .error failure → failure.isConnection = true
  answer : ∀ value, result = .ok (.ok value) →
    ∃ handle, errand.own? = some (own handle (.ok value))

/-- What giving up a session that was found broken makes of a result. -/
inductive GivenUp : Except Failure (Except ConnectorError α) →
    Except Failure (Except ConnectorError α) → List Exchange → Prop
  | broken {error : ConnectorError} {failure : Failure} {closing : List Exchange} :
    error.isIo = true → failure.isConnection = true → closing.all Exchange.isIdle = true →
    GivenUp (.ok (.error error)) (.error failure) closing
  | kept {result : Except Failure (Except ConnectorError α)} : isBroken result = false →
    GivenUp result result []

/-- How a call over a session goes. -/
structure Tried (gives : α → Option Nat)
    (own : SessionHandle → Except ConnectorError α → Exchange)
    (result : Except Failure (Except ConnectorError α)) (errand : Errand) : Prop where
  count : errand.count? = delivery gives result
  /-- Nothing but the connection makes the call fail. -/
  fatal : errand.stretch.any Exchange.isFatal = Failure.isLoss result
  loss : ∀ failure, result = .error failure → failure.isConnection = true
  answer : ∀ value, result = .ok (.ok value) →
    ∃ handle, errand.own? = some (own handle (.ok value))

theorem Attempts.tried {result result' : Except Failure (Except ConnectorError α)} {errand : Errand}
    {closing : List Exchange} (h : Attempts gives own result errand)
    (hGivenUp : GivenUp result result' closing) :
    ∃ hClosing, Tried gives own result' (errand.closedBy closing hClosing) := by
  cases hGivenUp with
  | @broken error failure _ hIo hLoss hClosing =>
    refine ⟨hClosing, h.count, ?_, ?_, nofun⟩
    · rw [errand.stretch_closedBy hClosing, List.any_append, h.fatal, isBroken, hIo]
      exact hLoss.symm
    · rintro _ ⟨⟩
      exact hLoss
  | kept hSound =>
    refine ⟨List.all_nil, h.count, ?_, h.loss, h.answer⟩
    rw [errand.stretch_closedBy List.all_nil, List.append_nil, h.fatal, hSound, Bool.false_or]

theorem makes_attempt {request : SessionHandle → Act (Except ConnectorError α)}
    (hOwn : Own deed gives own)
    (hRequest : ∀ handle,
      Makes configured (fun reply stretch => stretch = [own handle reply]) (request handle)) :
    Makes configured (Through deed (Attempts gives own)) (attempt request) := by
  refine makes_ensure.bind ?_
  -- Without a session there is no call, and the errand ends with the opening.
  rintro (failure | handle) opening hFound
  · have hLoss := hFound.loss failure rfl
    have hFatal : opening.any Exchange.isFatal = true := hFound.fatal.trans hLoss
    refine makes_pure ⟨.stopped deed opening hFound.isIdle (.inr ⟨hOwn.isData, hFatal⟩), rfl, ?_,
      rfl, ?_, ?_, nofun⟩
    · rw [Errand.stretch_stopped, List.append_nil]
    · rw [Errand.stretch_stopped]
      exact hFound.fatal
    · rintro _ ⟨⟩
      exact hLoss
  · refine (hRequest handle).map ?_
    rintro reply _ rfl
    have hCalm : opening.any Exchange.isFatal = false := hFound.fatal
    refine ⟨.calling _ opening [] hFound.isIdle List.all_nil, hOwn.deed_eq handle reply,
      Errand.stretch_calling, ?_⟩
    have hStretch (own : Exchange) :
        (Errand.calling own opening [] hFound.isIdle List.all_nil).stretch.any Exchange.isFatal =
          own.isFatal := by
      rw [Errand.stretch_calling, List.any_append, List.any_cons, hCalm, List.any_nil, Bool.or_false,
        Bool.false_or]
    cases reply with
    | ok value =>
      refine ⟨hOwn.delivered handle value, (hStretch _).trans (hOwn.calm handle value), nofun, ?_⟩
      rintro _ ⟨⟩
      exact ⟨handle, rfl⟩
    | error error =>
      refine ⟨hOwn.refused handle error, ?_, nofun, nofun⟩
      rw [hStretch, hOwn.fatal]
      exact (Bool.or_false _).symm

/-- The session is given up if the connection has failed, but not if the endpoint refuses. -/
theorem makes_givingUp (activity : Activity) (result : Except Failure (Except ConnectorError α)) :
    Makes configured (GivenUp result) (givingUp activity result) := by
  rcases result with failure | error | value
  · exact makes_pure (.kept rfl)
  · rw [givingUp]
    cases hIo : error.isIo with
    | true =>
      simp only [if_true]
      exact makes_release.map fun _ closing hClosing => .broken hIo rfl hClosing
    | false =>
      simp only [Bool.false_eq_true, if_false]
      exact makes_pure (.kept hIo)
  · exact makes_pure (.kept rfl)

theorem makes_call (activity : Activity) {request : SessionHandle → Act (Except ConnectorError α)}
    (hOwn : Own deed gives own)
    (hRequest : ∀ handle,
      Makes configured (fun reply stretch => stretch = [own handle reply]) (request handle)) :
    Makes configured (Through deed (Tried gives own)) (call activity request) := by
  refine (makes_attempt hOwn hRequest).bind ?_
  rintro result _ ⟨errand, hDeed, rfl, hAttempts⟩
  refine Makes.mono (makes_givingUp activity result) fun result' closing hGivenUp => ?_
  obtain ⟨hClosing, hTried⟩ := hAttempts.tried hGivenUp
  exact ⟨errand.closedBy closing hClosing, hDeed, errand.stretch_closedBy hClosing, hTried⟩

theorem own_names (pattern : BeanName) : Own (.query pattern) (fun names => some names.length)
    fun handle reply => ⟨.names handle pattern, .value reply⟩ :=
  ⟨rfl, fun _ _ => rfl, fun _ _ => rfl, fun _ _ => rfl, fun _ _ => rfl, fun _ _ => rfl⟩

theorem own_describe (bean : BeanName) :
    Own (.describe bean) (fun info => some info.attributes.length)
      fun handle reply => ⟨.describe handle bean, .value reply⟩ :=
  ⟨rfl, fun _ _ => rfl, fun _ _ => rfl, fun _ _ => rfl, fun _ _ => rfl, fun _ _ => rfl⟩

theorem own_read (bean : BeanName) (name : String) : Own (.read bean name)
    (fun value => (value.flatten (qualifiedName bean name)).toOption.map List.length)
    fun handle reply => ⟨.read handle bean name, .value reply⟩ :=
  ⟨rfl, fun _ _ => rfl, fun _ _ => rfl, fun _ _ => rfl, fun _ _ => rfl, fun _ _ => rfl⟩

theorem own_readMany (bean : BeanName) (names : List String) : Own (.readMany bean names)
    (fun values => some values.length)
    fun handle reply => ⟨.readMany handle bean names, .value reply⟩ :=
  ⟨rfl, fun _ _ => rfl, fun _ _ => rfl, fun _ _ => rfl, fun _ _ => rfl, fun _ _ => rfl⟩

end calls

end Session

end BeanBridge
