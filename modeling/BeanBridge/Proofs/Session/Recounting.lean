import BeanBridge.Proofs.Session.Doings
import BeanBridge.Session.Operation

/-! Records of operations.  Each operation leaves its records behind those before it: one for a step
that asks the endpoint, whether it succeeds or not, and those of the steps that it goes on with.  So
the records tell, in their order, what was done since a session was opened with recording on. -/

namespace BeanBridge

/-- The names of the attributes that can be read. -/
def BeanInfo.readableNames (info : BeanInfo) : List String :=
  (info.attributes.filter (·.isReadable)).map (·.name)

/-- How attributes that are known by name are read; the flag tells whether the session lasts.  If the
endpoint refuses to deliver them together they are read one by one, which is not recorded. -/
inductive ReadsNamed (bean : BeanName) (names : List String) : List Doing → Bool → Prop
  | delivered {errand : Errand} : errand.deed = .readMany bean names → errand.count?.isSome = true →
    ReadsNamed bean names [.errand errand] true
  | lost {errand : Errand} : errand.deed = .readMany bean names → errand.count? = none →
    errand.stretch.any Exchange.isFatal = true → ReadsNamed bean names [.errand errand] false
  | oneByOne {errand : Errand} {stretch : List Exchange} : errand.deed = .readMany bean names →
    errand.count? = none → errand.stretch.any Exchange.isFatal = false →
    (∀ exchange ∈ stretch, exchange.isIdle = true ∨
      ∃ name ∈ names, exchange.call.deed = .read bean name) →
    ReadsNamed bean names [.errand errand, .singles stretch] !stretch.any Exchange.isFatal

/-- How attributes of a bean are read.  If none is named, they are those that the endpoint tells of. -/
inductive Reads (bean : BeanName) : List String → List Doing → Bool → Prop
  | named {names : List String} {doings : List Doing} {ok : Bool} : names ≠ [] →
    ReadsNamed bean names doings ok → Reads bean names doings ok
  | unknown {errand : Errand} : errand.deed = .describe bean → errand.count? = none →
    Reads bean [] [.errand errand] false
  | all {errand : Errand} {handle : SessionHandle} {info : BeanInfo} {doings : List Doing}
    {ok : Bool} : errand.deed = .describe bean →
    errand.own? = some ⟨.describe handle bean, .value (.ok info)⟩ →
    ReadsNamed bean info.readableNames doings ok → Reads bean [] (.errand errand :: doings) ok

/-- How attributes of beans are read, up to the first bean that fails. -/
inductive ReadsEach (names : List String) : List BeanName → List Doing → Bool → Prop
  | nil : ReadsEach names [] [] true
  | stop {bean : BeanName} {beans : List BeanName} {doings : List Doing} :
    Reads bean names doings false → ReadsEach names (bean :: beans) doings false
  | next {bean : BeanName} {beans : List BeanName} {doings rest : List Doing} {ok : Bool} :
    Reads bean names doings true → ReadsEach names beans rest ok →
    ReadsEach names (bean :: beans) (doings ++ rest) ok

/-- The deed that is the whole operation, if there is one. -/
def Operation.deed? : Operation → Option Deed
  | connect _ => some .connect
  | disconnect => some .disconnect
  | beanNames pattern => some (.query pattern)
  | attributeNames bean => some (.describe bean)
  | read bean name => some (.read bean name)
  | readMany .. | queryMany .. => none

/-- What an operation does; the flag tells whether it succeeds. -/
inductive Does : Operation → List Doing → Bool → Prop
  | deed {operation : Operation} {errand : Errand} : operation.deed? = some errand.deed →
    Does operation [.errand errand] errand.count?.isSome
  | readMany {bean : BeanName} {names : List String} {doings : List Doing} {ok : Bool} :
    Reads bean names doings ok → Does (.readMany bean names) doings ok
  | bean {pattern : BeanName} {names : List String} {doings : List Doing} {ok : Bool} :
    pattern.isPattern = false → ReadsEach names [pattern] doings ok →
    Does (.queryMany pattern names) doings ok
  | unanswered {pattern : BeanName} {names : List String} {errand : Errand} :
    pattern.isPattern = true → errand.deed = .query pattern → errand.count? = none →
    Does (.queryMany pattern names) [.errand errand] false
  | beans {pattern : BeanName} {names : List String} {errand : Errand} {handle : SessionHandle}
    {found : List BeanName} {doings : List Doing} {ok : Bool} :
    pattern.isPattern = true → errand.deed = .query pattern →
    errand.own? = some ⟨.names handle pattern, .value (.ok found)⟩ →
    ReadsEach names found doings ok →
    Does (.queryMany pattern names) (.errand errand :: doings) ok

/-- What operations do, one after another. -/
inductive DoesAll : List Operation → List (Except Failure Response) → List Doing → Prop
  | nil : DoesAll [] [] []
  | cons {operation : Operation} {operations : List Operation} {result : Except Failure Response}
    {results : List (Except Failure Response)} {doings rest : List Doing} :
    Does operation doings result.isOk → DoesAll operations results rest →
    DoesAll (operation :: operations) (result :: results) (doings ++ rest)

namespace Session

variable {α β : Type}

theorem isSome_countOk {ε : Type} (size : α → Nat) (result : Except ε α) :
    (countOk size result).isSome = result.isOk := by
  cases result <;> rfl

theorem isOk_map {ε : Type} (change : α → β) (result : Except ε α) :
    (result.map change).isOk = result.isOk := by
  cases result <;> rfl

/-! ### Errands -/

/-- How the result of an errand tells of its call. -/
structure Answers (size : α → Nat) (own : SessionHandle → Except ConnectorError α → Exchange)
    (result : Except Failure α) (errand : Errand) : Prop where
  count : errand.count? = countOk size result
  answer : ∀ value, result = .ok value → ∃ handle, errand.own? = some (own handle (.ok value))

theorem Tried.answers {size : α → Nat} {own : SessionHandle → Except ConnectorError α → Exchange}
    {result : Except Failure (Except ConnectorError α)} {errand : Errand}
    (h : Tried (fun value => some (size value)) own result errand)
    (refused : ConnectorError → Fault) : Answers size own (settled refused result) errand := by
  rcases result with failure | error | value
  · exact ⟨h.count, nofun⟩
  · exact ⟨h.count, nofun⟩
  · refine ⟨h.count, ?_⟩
    rintro _ ⟨⟩
    exact h.answer value rfl

/-- A recorded call whose refusal is the failure of the errand. -/
theorem recounts_settled {deed : Deed} {size : α → Nat} (activity : Activity)
    {own : SessionHandle → Except ConnectorError α → Exchange}
    {request : SessionHandle → Act (Except ConnectorError α)}
    (hOwn : Own deed (fun value => some (size value)) own)
    (hRequest : ∀ handle,
      Makes configured (fun reply stretch => stretch = [own handle reply]) (request handle))
    (refused : ConnectorError → Fault) :
    Recounts configured (Single deed (Answers size own))
      (recorded deed.kind deed.subject deed.attributes (countOk size) do
        return settled refused (← call activity request)) := by
  refine Makes.recorded ?_ fun result errand hAnswers => hAnswers.count
  refine (makes_call activity hOwn hRequest).map ?_
  rintro result stretch ⟨errand, hDeed, hStretch, hTried⟩
  exact ⟨errand, hDeed, hStretch, hTried.answers refused⟩

theorem recounts_beans (pattern : BeanName) :
    Recounts configured (Single (.query pattern) (Answers List.length
      fun handle reply => ⟨.names handle pattern, .value reply⟩)) (beans pattern) :=
  recounts_settled .queryingBeans (own_names pattern)
    (fun handle => makes_ask (.names handle pattern)) (.queryRefused pattern)

theorem recounts_attributeNames (bean : BeanName) :
    Recounts configured (Single (.describe bean) fun result errand =>
      errand.count?.isSome = result.isOk ∧ ∀ names, result = .ok names → ∃ handle info,
        errand.own? = some ⟨.describe handle bean, .value (.ok info)⟩ ∧ info.readableNames = names)
      (attributeNames bean) := by
  have hInfo : Recounts configured _ (recorded "getMBeanInfo" bean.text [] _ _) :=
    recounts_settled .describingBean (own_describe bean)
      (fun handle => makes_ask (.describe handle bean)) (.beanRefused bean)
  refine hInfo.map ?_
  rintro result doings ⟨errand, hDeed, rfl, hAnswers⟩
  refine ⟨errand, hDeed, rfl, ?_, ?_⟩
  · rw [hAnswers.count, isSome_countOk, isOk_map]
  · rintro names hNames
    cases result with
    | error failure => nomatch hNames
    | ok info =>
      obtain ⟨handle, hOwn⟩ := hAnswers.answer info rfl
      exact ⟨handle, info, hOwn, Except.ok.inj hNames⟩

theorem makes_fetch (bean : BeanName) (name : String) :
    Makes configured (Through (.read bean name) fun result errand =>
      errand.count? = countOk List.length result ∧
        errand.stretch.any Exchange.isFatal = Failure.isLoss result) (fetch bean name) := by
  have hCall : Makes configured _
      (call .readingAttribute fun session => Action.ask (Call.read session bean name)) :=
    makes_call _ (own_read bean name) fun handle => makes_ask (.read handle bean name)
  refine hCall.map ?_
  rintro result stretch ⟨errand, hDeed, hStretch, hTried⟩
  refine ⟨errand, hDeed, hStretch, ?_⟩
  show errand.count? = countOk _ _ ∧ errand.stretch.any Exchange.isFatal = Failure.isLoss _
  rw [hTried.count, hTried.fatal]
  rcases result with failure | error | value
  · exact ⟨rfl, rfl⟩
  · exact ⟨rfl, rfl⟩
  · simp only [settled, delivery]
    cases value.flatten (qualifiedName bean name) with
    | ok entries => exact ⟨rfl, rfl⟩
    | error reason => exact ⟨rfl, rfl⟩

theorem recounts_read (bean : BeanName) (name : String) :
    Recounts configured (Single (.read bean name) fun result errand =>
      errand.count? = countOk List.length result ∧
        errand.stretch.any Exchange.isFatal = Failure.isLoss result) (read bean name) :=
  (makes_fetch bean name).recorded fun _ _ h => h.1

/-- Reads one by one end with the session, and only with it. -/
theorem makes_fetchEach (bean : BeanName) (names : List String) :
    Makes configured (fun collected stretch =>
      stretch.any Exchange.isFatal = collected.failure.isSome ∧
        ∀ exchange ∈ stretch, exchange.isIdle = true ∨
          ∃ name ∈ names, exchange.call.deed = .read bean name) (fetchEach bean names) := by
  induction names with
  | nil => exact makes_pure ⟨rfl, List.forall_mem_nil _⟩
  | cons name names ih =>
    refine (makes_fetch bean name).bind ?_
    rintro result _ ⟨errand, hDeed, rfl, -, hFatal⟩
    have hFirst : ∀ exchange ∈ errand.stretch, exchange.isIdle = true ∨
        ∃ found ∈ name :: names, exchange.call.deed = .read bean found := by
      intro exchange hExchange
      exact (errand.isIdle_or_deed hExchange).imp_right fun hOwn =>
        ⟨name, List.mem_cons_self, hOwn.trans hDeed⟩
    have hRest (stretch : List Exchange) (h : ∀ exchange ∈ stretch, exchange.isIdle = true ∨
        ∃ found ∈ names, exchange.call.deed = .read bean found) :
        ∀ exchange ∈ errand.stretch ++ stretch, exchange.isIdle = true ∨
          ∃ found ∈ name :: names, exchange.call.deed = .read bean found := by
      intro exchange hExchange
      rcases List.mem_append.mp hExchange with hOwn | hLater
      · exact hFirst exchange hOwn
      · exact (h exchange hLater).imp_right fun ⟨found, hFound, hRead⟩ =>
          ⟨found, List.mem_cons_of_mem name hFound, hRead⟩
    rcases result with (message | ⟨message, cause, stacktrace⟩) | entries
    · exact makes_pure (by rw [List.append_nil]; exact ⟨hFatal, hFirst⟩)
    -- What is refused or delivered does not end the reading, so the rest decides.
    · refine ih.map fun rest later hLater => ⟨?_, hRest later hLater.2⟩
      rw [List.any_append, hFatal, hLater.1]
      rfl
    · refine ih.map fun rest later hLater => ⟨?_, hRest later hLater.2⟩
      rw [List.any_append, hFatal, hLater.1]
      rfl

/-! ### Operations -/

theorem recounts_readNamed (bean : BeanName) (names : List String) :
    Recounts configured
      (fun collected doings => ReadsNamed bean names doings collected.failure.isNone)
      (readNamed bean names) := by
  have hAttempt : Makes configured _
      (attempt fun session => Action.ask (Call.readMany session bean names)) :=
    makes_attempt (own_readMany bean names) fun handle => makes_ask (.readMany handle bean names)
  have hRecorded : Recounts configured _ (recorded "getAttributes" bean.text names countBatch _) :=
    hAttempt.recorded fun result errand hAttempts => by
      rw [hAttempts.count]
      rcases result with failure | error | values <;> rfl
  have hGivenUp := hRecorded.closing (makes_givingUp .readingAttributes)
    fun _ _ _ _ hAttempts hGivenUp => hAttempts.tried hGivenUp
  rw [readNamed, ← bind_assoc]
  refine hGivenUp.bind ?_
  rintro result _ ⟨errand, hDeed, rfl, hTried⟩
  rcases result with failure | error | values
  · exact recounts_pure (.lost hDeed hTried.count (hTried.fatal.trans (hTried.loss failure rfl)))
  -- The record of the batch stays that of a failure, whatever the single reads come to.
  · refine (makes_fetchEach bean names).recounts.mono ?_
    rintro collected _ ⟨stretch, rfl, hFatal, hSingles⟩
    have hLasts : collected.failure.isNone = !stretch.any Exchange.isFatal := by
      rw [hFatal, Option.not_isSome]
    show ReadsNamed bean names [.errand errand, .singles stretch] _
    rw [hLasts]
    exact .oneByOne hDeed hTried.count hTried.fatal hSingles
  · exact recounts_pure (.delivered hDeed (by rw [hTried.count]; rfl))

theorem recounts_readMany (bean : BeanName) (names : List String) :
    Recounts configured (fun collected doings => Reads bean names doings collected.failure.isNone)
      (readMany bean names) := by
  rw [readMany]
  by_cases hNames : names = []
  · subst hNames
    refine (recounts_attributeNames bean).bind ?_
    rintro (failure | found) _ ⟨errand, hDeed, rfl, hCount, hAnswer⟩
    · have hNone : errand.count? = none := by
        rw [← Option.not_isSome_iff_eq_none, hCount]
        exact Bool.false_ne_true
      exact recounts_pure (.unknown hDeed hNone)
    · obtain ⟨handle, info, hOwn, rfl⟩ := hAnswer found rfl
      exact (recounts_readNamed bean info.readableNames).mono fun _ _ hReads =>
        .all hDeed hOwn hReads
  · rw [if_neg (by simpa using hNames)]
    exact (recounts_readNamed bean names).mono fun _ _ hReads => .named hNames hReads

theorem recounts_readEach (names : List String) (beans : List BeanName) :
    Recounts configured (fun result doings => ReadsEach names beans doings result.isOk)
      (readEach names beans) := by
  induction beans with
  | nil => exact recounts_pure .nil
  | cons bean beans ih =>
    refine (recounts_readMany bean names).bind ?_
    rintro ⟨entries, failure⟩ doings hReads
    cases failure with
    | some failure => exact recounts_pure (by rw [List.append_nil]; exact .stop hReads)
    | none =>
      refine ih.map fun result rest hRest => ?_
      rw [isOk_map]
      exact .next hReads hRest

theorem recounts_queryMany (pattern : BeanName) (names : List String) :
    Recounts configured (fun result doings => Does (.queryMany pattern names) doings result.isOk)
      (queryMany pattern names) := by
  rw [queryMany]
  cases hPattern : pattern.isPattern with
  | false => exact (recounts_readEach names [pattern]).mono fun _ _ hReads => .bean hPattern hReads
  | true =>
    refine (recounts_beans pattern).bind ?_
    rintro (failure | found) _ ⟨errand, hDeed, rfl, hCount, hAnswer⟩
    · exact recounts_pure (.unanswered hPattern hDeed hCount)
    · obtain ⟨handle, hOwn⟩ := hAnswer found rfl
      exact (recounts_readEach names found).mono fun _ _ hReads => .beans hPattern hDeed hOwn hReads

/-- An errand that is the whole operation. -/
theorem recounts_errand {act : Act (Except Failure α)} {operation : Operation} {deed : Deed}
    {before : Connection → Prop} {change : α → Response} {R : Except Failure α → Errand → Prop}
    (h : Recounts before (Single deed R) act) (hDeed : operation.deed? = some deed)
    (hOk : ∀ result errand, R result errand → errand.count?.isSome = result.isOk) :
    Recounts before (fun result doings => Does operation doings result.isOk)
      (do return (← act).map change) := by
  refine h.map ?_
  rintro result _ ⟨errand, rfl, rfl, hErrand⟩
  rw [isOk_map, ← hOk result errand hErrand]
  exact .deed hDeed

theorem Settles.isSome {result : Except Failure α} {errand : Errand} (h : Settles result errand) :
    errand.count?.isSome = result.isOk := by
  rw [h, isSome_countOk]

theorem recounts_act {operation : Operation} (h : ∀ config, operation ≠ .connect config) :
    Recounts configured (fun result doings => Does operation doings result.isOk) operation.act := by
  cases operation with
  | connect config => exact absurd rfl (h config)
  | disconnect =>
    have hDisconnect : Recounts configured (Single .disconnect Settles) disconnect :=
      makes_disconnect.recorded fun _ _ hSettles => hSettles
    exact recounts_errand hDisconnect rfl fun _ _ hSettles => hSettles.isSome
  | beanNames pattern =>
    have hNames : Recounts configured
        (Single (.query pattern) fun result errand => errand.count?.isSome = result.isOk)
        (Session.beanNames pattern) := by
      refine (recounts_beans pattern).map ?_
      rintro result _ ⟨errand, hDeed, rfl, hAnswers⟩
      refine ⟨errand, hDeed, rfl, ?_⟩
      show errand.count?.isSome = (result.map _).isOk
      rw [hAnswers.count, isSome_countOk, isOk_map]
    exact recounts_errand hNames rfl fun _ _ hCount => hCount
  | attributeNames bean =>
    exact recounts_errand (recounts_attributeNames bean) rfl fun _ _ h => h.1
  | read bean name =>
    exact recounts_errand (recounts_read bean name) rfl fun _ _ h => by rw [h.1, isSome_countOk]
  | readMany bean names =>
    refine (recounts_readMany bean names).map ?_
    rintro ⟨entries, failure⟩ doings hReads
    cases failure <;> exact .readMany hReads
  | queryMany pattern names =>
    refine (recounts_queryMany pattern names).map fun result doings hDoes => ?_
    rwa [isOk_map]

/-! ### Runs -/

theorem recounts_mapM {operations : List Operation}
    (h : ∀ operation ∈ operations, ∀ config, operation ≠ .connect config) :
    Recounts configured (DoesAll operations) (operations.mapM Operation.act) := by
  induction operations with
  | nil => exact recounts_pure .nil
  | cons operation operations ih =>
    obtain ⟨hFirst, hRest⟩ := List.forall_mem_cons.mp h
    rw [List.mapM_cons]
    refine (recounts_act hFirst).bind fun result doings hDoes => ?_
    exact (ih hRest).map fun results rest hAll => .cons hDoes hAll

/-- Connecting is the first doing of a recorder that is turned on. -/
theorem recounts_connect (config : Config) :
    Recounts (fun _ => True) (fun result doings => Does (.connect config) doings result.isOk) (do
      return (← recorded "connect" "" [] (countOk fun _ => 0)
        (onConnection (Connection.connect config))).map fun _ => Response.connected) := by
  have hConnect : Recounts (fun _ => True) (Single .connect Settles)
      (recorded "connect" "" [] (countOk fun _ => 0) (onConnection (Connection.connect config))) :=
    (makes_connect config).recorded fun _ _ hSettles => hSettles
  exact recounts_errand hConnect rfl fun _ _ hSettles => hSettles.isSome

/-- What the records of operations tell, by the exchanges made and the results. -/
structure Recounted (config : Config) (operations : List Operation)
    (results : List (Except Failure Response)) (past : List Exchange) (after : Session)
    (doings : List Doing) : Prop where
  does : DoesAll operations results doings
  /-- No exchange is left out, and each belongs to one of the doings. -/
  exchanged : doings.flatMap (·.stretch) = past
  /-- The newest records are drained in the order of the doings. -/
  drained : after.stats.drain?.map (fun (kept, _) => kept.map Stat.timeless) =
    some (Recorder.remembered (Recorder.capacityOf config.statsCapacity)
      (doings.filterMap (·.record?)))
  /-- All records are, if there is room for them. -/
  complete : (doings.filterMap (·.record?)).length ≤ Recorder.capacityOf config.statsCapacity →
    after.stats.drain?.map (fun (kept, _) => kept.map Stat.timeless) =
      some (doings.filterMap (·.record?))

/-- The records of operations recount what was done.  After connecting with recording on, whatever
the endpoint answers, each step has left one record in its place, whether it succeeded or not, and
the record tells what the call of the step has delivered. -/
theorem records_recount_operations {κ : Type} (connector : Connector κ) (drift : Nat → κ → κ)
    (session : Session) (inner : κ) (config : Config) (operations : List Operation)
    (hRecords : config.recordsStats = true)
    (hOnce : ∀ operation ∈ operations, ∀ other, operation ≠ .connect other) :
    let course := runNoted connector drift
      ((Operation.connect config :: operations).mapM Operation.act) session inner
    course.1.Satisfies
      (fun results => ∃ doings, Recounted config (.connect config :: operations) results
        (exchanges course.2.2.1) course.2.1 doings)
      (Crashed anyCall (exchanges course.2.2.1)) := by
  intro course
  let capacity := Recorder.capacityOf config.statsCapacity
  have hAll : Recounts (fun _ => True) (DoesAll (.connect config :: operations)) _ :=
    (recounts_connect config).bind fun result doings hDoes =>
      (recounts_mapM hOnce).map fun results rest hRest => .cons hDoes hRest
  let begun : Session :=
    { session with stats := session.stats.configure config.recordsStats config.statsCapacity }
  have hBegun : begun.stats.timeless = .holding capacity session.stats.next [] := by
    show (session.stats.configure config.recordsStats config.statsCapacity).timeless = _
    rw [hRecords]
    exact Stats.timeless_configure session.stats config.statsCapacity
  have hStart := hAll capacity session.stats.next [] begun []
    (Recorder.capacityOf_pos config.statsCapacity) trivial hBegun
  have hUpholds : (((Operation.connect config :: operations).mapM Operation.act) session).Upholds
      alone (fun results after past => ∃ doings,
        Recounted config (.connect config :: operations) results past after doings) [] := by
    rw [List.mapM_cons]
    refine Dialogue.Upholds.mono hStart ?_
    rintro results after _ ⟨-, doings, rfl, hDoes, hHolding⟩
    have hDrained := Stats.drain?_of_timeless hHolding
    refine ⟨doings, hDoes, rfl, hDrained, fun hRoom => ?_⟩
    rw [hDrained, List.nil_append, Recorder.remembered_of_le hRoom]
  exact upholds_runNoted hUpholds (fun _ _ => rfl) connector drift inner

/-- Two beans are found.  The first is read one by one, as the endpoint does not deliver its attributes
together, and one of them gives no entry; the line breaks when the other bean is described. -/
theorem records_recount_operations_broken_query :
    let config : Config := { Config.ofHost "host" 7 with recordsStats := true }
    let script : Script := { replies := [{}, { names := ["d:k=1", "d:k=2"] },
      { attributes := [("a", true), ("b", false), ("c", true)] },
      { effect := .fail (.remote "r" "no" "") }, { value := .bool true }, { value := .null },
      { effect := .fail (.io "gone" "") }, {}, { value := .bool true }] }
    let operations : List Operation := [.queryMany ⟨"d", [], true⟩ [],
      .read ⟨"d", [⟨"k", "1", false⟩], false⟩ "a", .disconnect, .disconnect]
    let course := runNoted Script.connector (fun _ => id)
      ((Operation.connect config :: operations).mapM Operation.act) {} script
    course.2.1.stats.drain?.map (fun (kept, _) => kept.map Stat.timeless) =
      some [{ kind := "connect", successful := true },
        { kind := "queryMBeans", bean := "d:*", responseCount := 2, successful := true },
        { kind := "getMBeanInfo", bean := "d:k=1", responseCount := 3, successful := true },
        { kind := "getAttributes", bean := "d:k=1", attributes := ["a", "c"] },
        { kind := "getMBeanInfo", bean := "d:k=2" },
        { kind := "getAttribute", bean := "d:k=1", attributes := ["a"], responseCount := 1,
          successful := true },
        { kind := "disconnect", successful := true }, { kind := "disconnect" }] ∧
      course.1.Satisfies
        (fun results => ∃ doings, Recounted config (.connect config :: operations) results
          (exchanges course.2.2.1) course.2.1 doings)
        (Crashed anyCall (exchanges course.2.2.1)) := by
  intro config script operations course
  refine ⟨by decide +kernel, ?_⟩
  have hOnce : ∀ operation ∈ operations, ∀ other, operation ≠ .connect other := by
    simp [operations]
  with_reducible
    exact records_recount_operations Script.connector (fun _ => id) {} script config operations rfl
      hOnce

end Session

end BeanBridge
