import BeanBridge.Proofs.Session.Entries
import BeanBridge.Proofs.Session.Reading
import BeanBridge.Proofs.Session.Stages
import BeanBridge.Proofs.Value.Endings
import BeanBridge.Session.Collecting
import Mathlib.Data.List.Basic

/-! What a read of named attributes leaves in the list that its entries are collected in.  Every
attribute asked for is accounted for, whatever the endpoint returns, and the read fails only with the
connection. -/

namespace BeanBridge

/-- A call for a session has failed, or a call has found the one that is open broken. -/
def Exchange.isFatal (exchange : Exchange) : Bool :=
  exchange.failure?.any fun error => exchange.call.isConnect || error.isIo

namespace Session

/-! ### One list for all entries -/

theorem fetchOnto_eq (bean : BeanName) (name : String) (out : List Entry) :
    fetchOnto bean name out = do return Value.collected out (← fetch bean name) := by
  rw [fetchOnto, fetch, bind_assoc]
  congr 1
  funext result
  rw [pure_bind]
  cases settled (.attributeRefused name bean) result with
  | error failure => rfl
  | ok value =>
    simp only [Value.flattenOnto_eq]
    cases value.flatten (qualifiedName bean name) with
    | ok entries => rfl
    | error reason => rfl

/-- What was collected, behind what was collected before. -/
def Collected.onto (out : List Entry) (collected : Collected) : Except Failure Unit × List Entry :=
  (match collected.failure with
    | some failure => .error failure
    | none => .ok (),
    out ++ collected.entries)

/-- Entries found before the rest can be collected before it. -/
theorem bind_onto_prepend (act : Act Collected) (out entries : List Entry) :
    (do
      let rest ← act
      return Collected.onto out { rest with entries := entries ++ rest.entries }) =
      do return Collected.onto (out ++ entries) (← act) := by
  congr 1
  funext rest
  rw [Collected.onto, Collected.onto, List.append_assoc]

theorem fetchEachOnto_eq (bean : BeanName) (names : List String) (out : List Entry) :
    fetchEachOnto bean names out = do return Collected.onto out (← fetchEach bean names) := by
  induction names generalizing out with
  | nil => simp [fetchEachOnto, fetchEach, Collected.onto]
  | cons name names ih =>
    rw [fetchEachOnto, fetchEach, fetchOnto_eq, bind_assoc, bind_assoc]
    congr 1
    funext result
    rw [pure_bind]
    rcases result with (message | ⟨message, cause, stacktrace⟩) | entries
    · simp [Value.collected, Collected.onto]
    · simp only [Value.collected, ih, bind_assoc, pure_bind]
      exact (bind_onto_prepend (fetchEach bean names) out [_]).symm
    · simp only [Value.collected, ih, bind_assoc, pure_bind]
      exact (bind_onto_prepend (fetchEach bean names) out entries).symm

theorem valuesOnto_eq (bean : BeanName) (values : List (String × Value)) (names : List String)
    (out : List Entry) :
    valuesOnto bean values names out =
      (missing names values, out ++ values.flatMap fun (name, value) => entriesOf bean name value) := by
  induction values generalizing names out with
  | nil => simp [valuesOnto, missing]
  | cons pair values ih =>
    obtain ⟨name, value⟩ := pair
    rw [valuesOnto, Value.flattenOnto_eq]
    cases hFlatten : value.flatten (qualifiedName bean name) with
    | ok entries => simp [Value.collected, ih, missing, entriesOf, hFlatten]
    | error reason => simp [Value.collected, ih, missing, entriesOf, hFlatten]

theorem readNamedOnto_eq (bean : BeanName) (names : List String) (out : List Entry) :
    readNamedOnto bean names out = do return Collected.onto out (← readNamed bean names) := by
  rw [readNamedOnto, readNamed, bind_assoc]
  congr 1
  funext tried
  rw [bind_assoc]
  congr 1
  funext result
  rcases result with failure | error | values
  · simp [Collected.onto]
  · exact fetchEachOnto_eq bean names out
  · simp [Collected.onto, valuesOnto_eq, batchEntries]

/-- Reading onto other entries leaves what reading by itself returns, behind those entries. -/
theorem readManyOnto_eq (bean : BeanName) (names : List String) (out : List Entry) :
    readManyOnto bean names out = do return Collected.onto out (← readMany bean names) := by
  rw [readManyOnto, readMany]
  split
  · rw [bind_assoc]
    congr 1
    funext result
    cases result with
    | error failure => simp [Collected.onto]
    | ok names => exact readNamedOnto_eq bean names out
  · exact readNamedOnto_eq bean names out

/-! ### What is missing -/

/-- The names asked for more often than they were answered: an occurrence is unanswered if there are
as many of the same name before it as answers. -/
def unanswered (names answered : List String) : List String :=
  (names.zipIdx.filter fun (name, index) =>
    answered.count name ≤ (names.take index).count name).map (·.1)

/-- A name takes up one of its answers from the names behind it. -/
theorem unanswered_cons (name : String) (names answered : List String) :
    unanswered (name :: names) answered =
      if name ∈ answered then unanswered names (answered.erase name)
      else name :: unanswered names answered := by
  have hLater (pair : String × Nat) :
      answered.count pair.1 ≤ ((name :: names).take (pair.2 + 1)).count pair.1 ↔
        (answered.erase name).count pair.1 ≤ (names.take pair.2).count pair.1 := by
    rw [List.take_succ_cons, List.count_cons, List.count_erase]
    split <;> omega
  have hHere : (answered.count name ≤ ((name :: names).take 0).count name) ↔ name ∉ answered := by
    rw [List.take_zero, List.count_nil, Nat.le_zero, List.count_eq_zero]
  simp only [unanswered, List.zipIdx_cons, List.zipIdx_succ, List.filter_cons, List.filter_map,
    Function.comp_def, hLater, hHere]
  by_cases hIn : name ∈ answered
  · simp [hIn, Function.comp_def]
  · simp [hIn, List.erase_of_not_mem, Function.comp_def]

theorem unanswered_eq_diff (names answered : List String) :
    unanswered names answered = names.diff answered := by
  induction names generalizing answered with
  | nil => simp [unanswered]
  | cons name names ih => rw [unanswered_cons, List.cons_diff, ih, ih]

theorem missing_eq_unanswered (names : List String) (values : List (String × Value)) :
    missing names values = unanswered names (values.map (·.1)) := by
  rw [unanswered_eq_diff, missing, List.diff_eq_foldl, List.foldl_map]

/-! ### What is asked and answered -/

/-- The attributes were read one by one over the session, and each answer has been made entries. -/
inductive OneByOne (bean : BeanName) (handle : SessionHandle) :
    List String → List Exchange → List Entry → Prop
  | nil : OneByOne bean handle [] [] []
  | cons {name : String} {names : List String} {singles : List Exchange} {entries : List Entry}
    (reply : Except ConnectorError Value) : OneByOne bean handle names singles entries →
    OneByOne bean handle (name :: names) (⟨.read handle bean name, .value reply⟩ :: singles)
      (reported bean name (fetched bean name reply) ++ entries)

/-- The attributes were read together, or one by one after that was refused; before this there were
only calls for a session. -/
inductive Gathered (bean : BeanName) (names : List String) : List Exchange → List Entry → Prop
  | together {opening : List Exchange} (handle : SessionHandle) (values : List (String × Value)) :
    (∀ exchange ∈ opening, exchange.call.isConnect = true) →
    Gathered bean names (opening ++ [⟨.readMany handle bean names, .value (.ok values)⟩])
      (values.flatMap (fun (name, value) => entriesOf bean name value) ++
        (unanswered names (values.map (·.1))).map (missingEntry bean))
  | oneByOne {opening singles : List Exchange} {handle : SessionHandle} {entries : List Entry}
    (error : ConnectorError) : (∀ exchange ∈ opening, exchange.call.isConnect = true) →
    error.isIo = false → OneByOne bean handle names singles entries →
    Gathered bean names
      (opening ++ ⟨.readMany handle bean names, .value (.error error)⟩ :: singles) entries

/-! ### Calls -/

/-- The connection is broken by one of the calls, or there was none to be had. -/
structure Lost (before : Connection) (failure : Failure) (past : List Exchange) : Prop where
  told : failure.isConnection = true
  reason : before = {} ∨ ∃ exchange ∈ past, exchange.isFatal = true

/-- A session that is open can be lost through a call only. -/
theorem Lost.of_live {config : Option Config} {handle : SessionHandle} {before : Connection}
    {failure : Failure} {past : List Exchange} (h : Lost ⟨config, some handle⟩ failure past) :
    Lost before failure past :=
  ⟨h.told, .inr (h.reason.resolve_left nofun)⟩

/-- How what asks for a session leaves the connection and the exchanges. -/
inductive Ensured (past : List Exchange) :
    Connection → Except Failure SessionHandle → Connection → List Exchange → Prop
  | held (config : Option Config) (handle : SessionHandle) :
    Ensured past ⟨config, some handle⟩ (.ok handle) ⟨config, some handle⟩ past
  | opened (settings : Config) (handle : SessionHandle) :
    Ensured past ⟨some settings, none⟩ (.ok handle) ⟨some settings, some handle⟩
      (past ++ [⟨.connect settings.target settings.environment, .value (.ok handle)⟩])
  | lost {before after : Connection} {failure : Failure} {later : List Exchange} :
    Lost before failure later → Ensured past before (.error failure) after later

/-- How calls over a session leave them before it is given up, `exchange` telling what they look like
with an answer. -/
inductive Attempted {α : Type} (exchange : SessionHandle → Except ConnectorError α → Exchange)
    (past : List Exchange) (before : Connection) :
    Except Failure (Except ConnectorError α) → Connection → List Exchange → Prop
  | answered {handle : SessionHandle} {after : Connection} {opening : List Exchange}
    (reply : Except ConnectorError α) : Ensured past before (.ok handle) after opening →
    Attempted exchange past before (.ok reply) after (opening ++ [exchange handle reply])
  | lost {failure : Failure} {after : Connection} {later : List Exchange} :
    Lost before failure later → Attempted exchange past before (.error failure) after later

/-- How a call over a session leaves them, `exchange` telling what it looks like with an answer. -/
inductive Called {α : Type} (exchange : SessionHandle → Except ConnectorError α → Exchange)
    (past : List Exchange) (before : Connection) :
    Except Failure (Except ConnectorError α) → Connection → List Exchange → Prop
  | answered {handle : SessionHandle} {after : Connection} {opening : List Exchange}
    (reply : Except ConnectorError α) : Ensured past before (.ok handle) after opening →
    (exchange handle reply).isFatal = false →
    Called exchange past before (.ok reply) after (opening ++ [exchange handle reply])
  | lost {failure : Failure} {after : Connection} {later : List Exchange} :
    Lost before failure later → Called exchange past before (.error failure) after later

theorem Ensured.of_error {past later : List Exchange} {before after : Connection} {failure : Failure}
    (h : Ensured past before (.error failure) after later) : Lost before failure later := by
  cases h with
  | lost hLost => exact hLost

theorem Ensured.eq_live {past opening : List Exchange} {before after : Connection}
    {handle : SessionHandle} (h : Ensured past before (.ok handle) after opening) :
    after = ⟨after.config, some handle⟩ := by
  cases h with
  | held | opened => rfl

/-- For a session there is at most one call, which has opened it. -/
theorem Ensured.opening {opening : List Exchange} {before after : Connection}
    {handle : SessionHandle} (h : Ensured [] before (.ok handle) after opening) :
    before ≠ {} ∧ ∀ exchange ∈ opening,
      exchange.call.isConnect = true ∧ exchange.isFatal = false := by
  cases h with
  | held => exact ⟨nofun, List.forall_mem_nil _⟩
  | opened => exact ⟨nofun, List.forall_mem_singleton.mpr ⟨rfl, rfl⟩⟩

section

variable {α : Type}

theorem leaves_ensure (session : Session) (past : List Exchange) :
    Leaves (tracked anyCall) (Ensured past session.connection) (onConnection Connection.ensure)
      session past := by
  refine Leaves.onConnection ?_
  rcases session with ⟨⟨_ | settings, _ | handle⟩, stats⟩
  · exact .lost ⟨rfl, .inl rfl⟩
  · exact .held none handle
  · refine ⟨trivial, ?_⟩
    rintro (error | handle) later next rfl rfl
    · exact .lost ⟨rfl, .inr ⟨_, List.mem_append_right _ (List.mem_singleton_self _), rfl⟩⟩
    · exact .opened settings handle
  · exact .held (some settings) handle

theorem leaves_ask_exchange (call : Call) (session : Session) (past : List Exchange) :
    Leaves (tracked anyCall) (fun reply after later => after = session.connection ∧
      later = past ++ [⟨call, .value reply⟩]) (Action.ask call) session past := by
  refine ⟨trivial, ?_⟩
  rintro reply later next hSame rfl
  exact ⟨hSame, rfl⟩

section exchange

variable {request : SessionHandle → Act (Except ConnectorError α)}
  {exchange : SessionHandle → Except ConnectorError α → Exchange}

theorem leaves_attempt_exchange
    (hRequest : ∀ handle session past, Leaves (tracked anyCall) (fun reply after later =>
      after = session.connection ∧ later = past ++ [exchange handle reply]) (request handle)
      session past)
    (session : Session) (past : List Exchange) :
    Leaves (tracked anyCall) (Attempted exchange past session.connection) (attempt request)
      session past := by
  refine (leaves_ensure session past).bind ?_
  rintro (failure | handle) between opening hEnsured
  · exact .lost hEnsured.of_error
  · refine (hRequest handle between opening).map ?_
    rintro reply _ _ ⟨rfl, rfl⟩
    exact .answered reply hEnsured

variable (hOk : ∀ handle value, (exchange handle (.ok value)).isFatal = false)
  (hError : ∀ handle error, (exchange handle (.error error)).isFatal = error.isIo)
include hOk hError

theorem leaves_givingUp_exchange (activity : Activity)
    {result : Except Failure (Except ConnectorError α)} {before : Connection} {session : Session}
    {past later : List Exchange} (h : Attempted exchange past before result session.connection later) :
    Leaves (tracked anyCall) (Called exchange past before) (givingUp activity result) session
      later := by
  generalize hAfter : session.connection = after at h
  cases h with
  | lost hLost => exact .lost hLost
  | @answered handle _ opening reply hEnsured =>
    subst hAfter
    cases reply with
    | ok value => exact .answered _ hEnsured (hOk handle value)
    | error error =>
      rw [givingUp]
      cases hIo : error.isIo with
      | true =>
        -- That the call has broken the session stays among the exchanges.
        simp only [if_true]
        refine (leaves_anyCall (onConnection Connection.release) session _).map ?_
        intro _ _ later hGrows
        exact .lost ⟨rfl, .inr ⟨_, hGrows (List.mem_append_right _ (List.mem_singleton_self _)),
          (hError handle error).trans hIo⟩⟩
      | false =>
        simp only [Bool.false_eq_true, if_false]
        exact .answered _ hEnsured ((hError handle error).trans hIo)

theorem leaves_call_exchange (activity : Activity)
    (hRequest : ∀ handle session past, Leaves (tracked anyCall) (fun reply after later =>
      after = session.connection ∧ later = past ++ [exchange handle reply]) (request handle)
      session past)
    (session : Session) (past : List Exchange) :
    Leaves (tracked anyCall) (Called exchange past session.connection) (call activity request)
      session past :=
  (leaves_attempt_exchange hRequest session past).bind fun _ _ _ =>
    leaves_givingUp_exchange hOk hError activity

end exchange

/-! ### Reads -/

variable {config : Option Config} {handle : SessionHandle} {session : Session}
  {past : List Exchange}

/-- How a read by itself goes over an open session. -/
inductive Fetched (bean : BeanName) (name : String) (config : Option Config) (handle : SessionHandle)
    (past : List Exchange) :
    Except Failure (List Entry) → Connection → List Exchange → Prop
  | answered (reply : Except ConnectorError Value) :
    (Exchange.mk (.read handle bean name) (.value reply)).isFatal = false →
    Fetched bean name config handle past (fetched bean name reply) ⟨config, some handle⟩
      (past ++ [⟨.read handle bean name, .value reply⟩])
  | lost {failure : Failure} {after : Connection} {later : List Exchange} :
    Lost ⟨config, some handle⟩ failure later →
    Fetched bean name config handle past (.error failure) after later

theorem leaves_fetch_live (bean : BeanName) (name : String)
    (h : session.connection = ⟨config, some handle⟩) :
    Leaves (tracked anyCall) (Fetched bean name config handle past) (fetch bean name) session
      past := by
  let exchange (handle : SessionHandle) (reply : Except ConnectorError Value) : Exchange :=
    ⟨.read handle bean name, .value reply⟩
  have hCall : Leaves (tracked anyCall) (Called exchange past session.connection)
      (call .readingAttribute fun session => Action.ask (Call.read session bean name)) session past :=
    leaves_call_exchange (fun _ _ => rfl) (fun _ _ => rfl) .readingAttribute
      (fun handle => leaves_ask_exchange (.read handle bean name)) session past
  rw [h] at hCall
  refine hCall.map ?_
  rintro result after later hCalled
  cases hCalled with
  | answered reply hEnsured hMild =>
    cases hEnsured with
    | held => exact .answered reply hMild
  | lost hLost => exact .lost hLost

/-- How reading of attributes goes from where no session or one is open: the entries are those of all
attributes, unless the connection is lost. -/
def Goes (before : Connection) (good : List Entry → List Exchange → Prop) (collected : Collected)
    (past : List Exchange) : Prop :=
  match collected.failure with
  | some failure => Lost before failure past
  | none => good collected.entries past

/-- The exchanges have gone on with reads of the attributes one by one. -/
def GoesOn (bean : BeanName) (handle : SessionHandle) (names : List String) (past : List Exchange)
    (entries : List Entry) (later : List Exchange) : Prop :=
  ∃ singles, later = past ++ singles ∧ OneByOne bean handle names singles entries ∧
    ∀ exchange ∈ singles, exchange.isFatal = false

/-- What is read first comes before the rest. -/
theorem goes_cons {bean : BeanName} {name : String} {names : List String}
    {reply : Except ConnectorError Value} {entries : List Entry} {rest : Collected}
    {later : List Exchange} (hEntries : reported bean name (fetched bean name reply) = entries)
    (hMild : (Exchange.mk (.read handle bean name) (.value reply)).isFatal = false)
    (h : Goes ⟨config, some handle⟩
      (GoesOn bean handle names (past ++ [⟨.read handle bean name, .value reply⟩])) rest later) :
    Goes ⟨config, some handle⟩ (GoesOn bean handle (name :: names) past)
      { rest with entries := entries ++ rest.entries } later := by
  rcases rest with ⟨restEntries, _ | failure⟩
  · obtain ⟨singles, rfl, hEach, hSingles⟩ := h
    subst hEntries
    exact ⟨_, List.append_assoc _ _ _, .cons reply hEach,
      List.forall_mem_cons.mpr ⟨hMild, hSingles⟩⟩
  · exact h

theorem leaves_fetchEach_live (bean : BeanName) (names : List String)
    (h : session.connection = ⟨config, some handle⟩) :
    Leaves (tracked anyCall)
      (fun collected _ => Goes ⟨config, some handle⟩ (GoesOn bean handle names past) collected)
      (fetchEach bean names) session past := by
  induction names generalizing session past with
  | nil => exact ⟨[], (List.append_nil past).symm, .nil, List.forall_mem_nil _⟩
  | cons name names ih =>
    refine (leaves_fetch_live bean name h).bind ?_
    intro result between later hFetched
    generalize hBetween : between.connection = connection at hFetched
    cases hFetched with
    | @answered reply hMild =>
      cases hResult : fetched bean name reply with
      | ok entries =>
        have hEntries := congrArg (reported bean name) hResult
        exact (ih hBetween).map fun rest _ later => goes_cons hEntries hMild
      | error failure =>
        have hEntries := congrArg (reported bean name) hResult
        obtain ⟨message, cause, stacktrace, rfl⟩ := fetched_eq_error hResult
        exact (ih hBetween).map fun rest _ later => goes_cons hEntries hMild
    | @lost failure after later hLost =>
      cases failure with
      | connection message => exact hLost
      | operation message cause stacktrace => exact absurd hLost.told Bool.false_ne_true

/-- Reading of named attributes gathers all of them, or else the connection is lost. -/
theorem leaves_readNamed_gathers (bean : BeanName) (names : List String) (session : Session) :
    Leaves (tracked anyCall)
      (fun collected _ => Goes session.connection (fun entries past =>
        session.connection ≠ {} ∧ Gathered bean names past entries ∧
          ∀ exchange ∈ past, exchange.isFatal = false) collected)
      (readNamed bean names) session [] := by
  let exchange (handle : SessionHandle) (reply : Except ConnectorError (List (String × Value))) :
      Exchange := ⟨.readMany handle bean names, .value reply⟩
  have hAttempt (begun : Session) : Leaves (tracked anyCall) (Attempted exchange [] begun.connection)
      (attempt fun session => Action.ask (Call.readMany session bean names)) begun [] :=
    leaves_attempt_exchange (fun handle => leaves_ask_exchange (.readMany handle bean names)) begun []
  refine (Leaves.recorded (fun begun hBegun => hBegun ▸ hAttempt begun) "getAttributes" bean.text names
    _).bind fun _ _ _ hAttempted => (leaves_givingUp_exchange (fun _ _ => rfl) (fun _ _ => rfl)
      .readingAttributes hAttempted).bind ?_
  intro result between later hCalled
  generalize hBetween : between.connection = connection at hCalled
  cases hCalled with
  | lost hLost => exact hLost
  | @answered handle after opening reply hEnsured hMild =>
    obtain ⟨hBefore, hOpening⟩ := hEnsured.opening
    have hConnects (exchange : Exchange) (h : exchange ∈ opening) := (hOpening exchange h).1
    have hCalm : ∀ met ∈ opening ++ [exchange handle reply], met.isFatal = false :=
      List.forall_mem_append.mpr ⟨fun met h => (hOpening met h).2, List.forall_mem_singleton.mpr hMild⟩
    cases reply with
    | ok values =>
      show _ ∧ Gathered bean names _ (batchEntries bean names values) ∧ _
      rw [batchEntries, missing_eq_unanswered]
      exact ⟨hBefore, .together handle values hConnects, hCalm⟩
    | error error =>
      refine Dialogue.Upholds.mono
        (leaves_fetchEach_live bean names (hBetween.trans hEnsured.eq_live)) ?_
      rintro ⟨entries, _ | failure⟩ after later hGoes
      · obtain ⟨singles, rfl, hEach, hSingles⟩ := hGoes
        refine ⟨hBefore, ?_, List.forall_mem_append.mpr ⟨hCalm, hSingles⟩⟩
        rw [List.append_assoc]
        exact .oneByOne error hConnects hMild hEach
      · exact hGoes.of_live

end

/-- What a read of named attributes makes of the entries collected before it. -/
structure Accounted (before : Session) (bean : BeanName) (names : List String) (prior : List Entry)
    (past : List Exchange) (read : Except Failure Unit × List Entry) : Prop where
  fails : ∀ failure, read.1 = .error failure → failure.isConnection = true
  /-- Nothing but the connection makes it fail: no settings for one were given, it cannot be opened,
  or a call breaks it.  A session that is held has settings, so where none were given none is open. -/
  failsOnly : (∃ failure, read.1 = .error failure) ↔
    (before.connection.config = none ∧ before.isConnected = false) ∨
      ∃ exchange ∈ past, exchange.isFatal = true
  /-- What was collected before stays, and the entries for all attributes stand behind it. -/
  appends : ∃ entries, read.2 = prior ++ entries ∧
    (read.1 = .ok () → Gathered bean names past entries)

theorem Goes.accounted {before : Session} {bean : BeanName} {names : List String}
    {collected : Collected} {past : List Exchange}
    (h : Goes before.connection (fun entries past => before.connection ≠ {} ∧
      Gathered bean names past entries ∧ ∀ exchange ∈ past, exchange.isFatal = false) collected past)
    (prior : List Entry) :
    Accounted before bean names prior past (collected.onto prior) := by
  have hNone : before.connection = {} ↔
      before.connection.config = none ∧ before.isConnected = false := by
    rcases before with ⟨⟨_ | config, _ | handle⟩, stats⟩ <;> simp [isConnected, Connection.isConnected]
  rcases collected with ⟨entries, _ | failure⟩
  · obtain ⟨hBefore, hGathered, hCalm⟩ := h
    have hNever (failure : Failure) : (Collected.onto prior ⟨entries, none⟩).1 ≠ .error failure := by
      rintro ⟨⟩
    refine ⟨fun failure hFailure => absurd hFailure (hNever failure), ⟨?_, ?_⟩, entries, rfl,
      fun _ => hGathered⟩
    · rintro ⟨failure, hFailure⟩
      exact absurd hFailure (hNever failure)
    · rintro (hUnset | ⟨exchange, hMem, hFatal⟩)
      · exact absurd (hNone.mpr hUnset) hBefore
      · exact absurd hFatal (by simp [hCalm exchange hMem])
  · have hLost : Lost before.connection failure past := h
    refine ⟨?_, ⟨fun _ => hLost.reason.imp_left hNone.mp, fun _ => ⟨failure, rfl⟩⟩, entries, rfl, ?_⟩
    · rintro _ ⟨⟩
      exact hLost.told
    · rintro ⟨⟩

/-- Reading named attributes onto other entries loses none of them, whatever the endpoint answers and
in whatever state the session is.  If the endpoint delivers values together, each gives its entries
or the one that reports it, and the names asked for more often than answered are reported behind
them.  If it refuses that, each attribute gives the entries of its single read or the one that reports
it.  Otherwise the connection is lost. -/
theorem readManyOnto_accounts_for_all {κ : Type} (connector : Connector κ) (drift : Nat → κ → κ)
    (session : Session) (inner : κ) (bean : BeanName) {names : List String} (hNames : names ≠ [])
    (prior : List Entry) :
    let course := runNoted connector drift (readManyOnto bean names prior) session inner
    let past := exchanges course.2.2.1
    course.1.Satisfies (Accounted session bean names prior past) (Crashed anyCall past) ∧
      readManyOnto bean names prior = (do return Collected.onto prior (← readMany bean names)) := by
  intro course past
  have hMany : readMany bean names = readNamed bean names := by
    rw [readMany, if_neg (by simpa using hNames)]
  have hOnto : readManyOnto bean names prior =
      (do return Collected.onto prior (← readMany bean names)) := readManyOnto_eq bean names prior
  refine ⟨?_, hOnto⟩
  have hLeaves : Leaves (tracked anyCall)
      (fun read _ past => Accounted session bean names prior past read)
      (readManyOnto bean names prior) session [] := by
    rw [hOnto, hMany]
    exact (leaves_readNamed_gathers bean names session).map fun _ _ _ h => h.accounted prior
  exact hLeaves.runNoted connector drift inner

/-- The endpoint answers in another order, with a value of no use and one that was not asked for, and
leaves out one attribute that was asked for twice.  Another refuses to deliver attributes together. -/
theorem readManyOnto_accounts_for_all_mixed :
    let session : Session := { connection := { config := some (.ofHost "host" 7) } }
    let bean : BeanName := ⟨"d", [⟨"k", "v", false⟩], false⟩
    let names := ["a", "b", "a"]
    let prior := [Entry.failed "p" "lost"]
    let short : Script := { replies := [{}, { values := [("z", .integer 1), ("a", .null)] }] }
    let refusing : Script := { replies := [{}, { effect := .fail (.remote "r" "no" "") },
      { value := .bool true }, { effect := .fail (.remote "r" "no" "") }, { value := .bool false }] }
    let course := runNoted Script.connector (fun _ => id)
      (readManyOnto bean names prior) session short
    let course' := runNoted Script.connector (fun _ => id)
      (readManyOnto bean names prior) session refusing
    (course.1.elim (·.2.map fun entry => (entry.name, entry.kind)) fun _ => []) =
        [("p", .error), ("d:k=v,attr=z", .int), ("d:k=v,attr=a", .error), ("d:k=v,attr=b", .error),
          ("d:k=v,attr=a", .error)] ∧
      (course'.1.elim (·.2.map fun entry => (entry.name, entry.kind)) fun _ => []) =
        [("p", .error), ("d:k=v,attr=a", .bool), ("d:k=v,attr=b", .error), ("d:k=v,attr=a", .bool)] ∧
      course.1.Satisfies (Accounted session bean names prior (exchanges course.2.2.1))
        (Crashed anyCall (exchanges course.2.2.1)) ∧
      course'.1.Satisfies (Accounted session bean names prior (exchanges course'.2.2.1))
        (Crashed anyCall (exchanges course'.2.2.1)) := by
  intro session bean names prior short refusing course course'
  have hNames : names ≠ [] := List.cons_ne_nil _ _
  refine ⟨by decide +kernel, by decide +kernel, ?_, ?_⟩
  · with_reducible exact (readManyOnto_accounts_for_all Script.connector (fun _ => id) session short
      bean hNames prior).1
  · with_reducible exact (readManyOnto_accounts_for_all Script.connector (fun _ => id) session
      refusing bean hNames prior).1

end Session

end BeanBridge
