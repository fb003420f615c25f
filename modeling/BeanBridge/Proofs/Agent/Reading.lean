import BeanBridge.Agent.Connector
import BeanBridge.Proofs.Agent.Values

/-! Attributes read together through an agent.  The agent answers with an object, whose members
become the values, and the session reports what it did not get.  A name that is asked for once is
missing only if the object has no member for it, just as with an endpoint in memory; a name that is
asked for again is reported missing although it was answered. -/

namespace BeanBridge

namespace Session

theorem qualifiedName_inj {bean : BeanName} {name other : String} :
    qualifiedName bean name = qualifiedName bean other ↔ name = other := by
  rw [qualifiedName, qualifiedName, String.append_right_inj]

/-- The value of one attribute is not what is reported of another that the endpoint left out. -/
theorem missingEntry_notMem_entriesOf (bean : BeanName) (name other : String) (value : Value) :
    missingEntry bean name ∉ entriesOf bean other value := by
  rw [entriesOf]
  cases hFlatten : value.flatten (qualifiedName bean other) with
  | ok entries =>
    intro hMem
    have hValid := Value.isError_flatten hFlatten _ hMem
    cases hValid
  | error reason =>
    intro hMem
    have hStatus := congrArg Entry.status (List.mem_singleton.mp hMem)
    have hFirst := congrArg (fun status => status.toList.head?) hStatus
    simp [missingEntry, Entry.failed, Fault.failure, statusText] at hFirst

theorem missingEntry_mem_batchEntries {bean : BeanName} {name : String} {names : List String}
    {values : List (String × Value)} :
    missingEntry bean name ∈ batchEntries bean names values ↔ name ∈ missing names values := by
  rw [batchEntries, List.mem_append, List.mem_flatMap, List.mem_map]
  constructor
  · rintro (⟨pair, -, hPair⟩ | ⟨other, hOther, hSame⟩)
    · exact absurd hPair (missingEntry_notMem_entriesOf bean name pair.1 pair.2)
    · obtain rfl := qualifiedName_inj.mp (congrArg Entry.name hSame)
      exact hOther
  · exact fun h => .inr ⟨name, h, rfl⟩

section run

variable {κ : Type} {connector : Connector κ} {tick : Nat → κ → κ} {session : Session}
  {inner ready after : κ} {connection : Connection} {handle : SessionHandle} {bean : BeanName}
  {names : List String} {values : List (String × Value)}

/-- The time passes for a session and for the connector. -/
abbrev elapse (tick : Nat → κ → κ) (milliseconds : Nat) (whole : Session × κ) : Session × κ :=
  (whole.1.tick milliseconds, tick milliseconds whole.2)

/-- The record of what is done changes nothing but the statistics. -/
theorem run_recorded {α : Type} {act : Act α} {value : α} (kind bean : String)
    (attributes : List String) (count : α → Option Nat)
    (h : ∀ stats, ∃ later : Session, later.connection = connection ∧
      (act.answeredBy connector (⟨session.connection, stats⟩, inner)).run (elapse tick) =
        (.value value, (later, after))) :
    ∃ stats,
      ((recorded kind bean attributes count act).answeredBy connector (session, inner)).run
          (elapse tick) =
        (.value value, (⟨connection, stats⟩, after)) := by
  obtain ⟨handle, begun, hBegin⟩ : ∃ handle begun,
      ((beginRecord kind bean attributes).answeredBy connector (session, inner)).run (elapse tick) =
        (.value handle, (⟨session.connection, begun⟩, inner)) := ⟨_, _, rfl⟩
  obtain ⟨later, rfl, hAct⟩ := h begun
  rw [recorded, Action.run_answeredBy_bind hBegin, Action.run_answeredBy_bind hAct]
  exact ⟨_, rfl⟩

/-- Once a session is open, or opened, the call is made over it. -/
theorem run_attempt_readMany {before : Connection}
    (hOpen : (Connection.ensure.answeredBy connector (before, inner)).run
      (fun milliseconds whole => (whole.1, tick milliseconds whole.2)) =
        (.value (.ok handle), (connection, ready)))
    (hReply : (connector (.readMany handle bean names) ready).run tick =
      (.value (.ok values), after)) (stats : Stats) :
    ∃ later : Session, later.connection = connection ∧
      ((attempt fun handle => Action.ask (Call.readMany handle bean names)).answeredBy
          connector (⟨before, stats⟩, inner)).run (elapse tick) =
        (.value (.ok (.ok values)), (later, after)) := by
  have hConnection : (Connection.ensure.answeredBy connector
      ((⟨before, stats⟩ : Session).connection, inner)).run _ = _ := hOpen
  obtain ⟨opened, hOpened, hEnsure⟩ := Action.run_answeredBy_focus
    (fun connection session => { session with connection }) (fun _ _ => rfl) Session.tick
    (fun _ _ => rfl) hConnection
  have hKept (milliseconds : Nat) (now : Session) (h : now.connection = connection) :
      (now.tick milliseconds).connection = connection := h
  obtain ⟨later, hLater, hRead⟩ := Action.run_answeredBy_ask hKept hReply hOpened
  refine ⟨later, hLater, ?_⟩
  rw [attempt, onConnection, Action.run_answeredBy_bind hEnsure]
  show ((Action.ask (Call.readMany handle bean names) >>= _).answeredBy connector _).run _ = _
  rw [Action.run_answeredBy_bind hRead]
  rfl

/-- Attributes of which the endpoint returned values together are reported by the entries of these,
and by one for each name that is missing. -/
theorem run_readMany_of_values
    (hOpen : (Connection.ensure.answeredBy connector (session.connection, inner)).run
      (fun milliseconds whole => (whole.1, tick milliseconds whole.2)) =
        (.value (.ok handle), (connection, ready)))
    (hNames : names ≠ [])
    (hReply : (connector (.readMany handle bean names) ready).run tick =
      (.value (.ok values), after)) :
    ∃ stats,
      ((readMany bean names).answeredBy connector (session, inner)).run (elapse tick) =
        (.value ⟨batchEntries bean names values, none⟩, (⟨connection, stats⟩, after)) := by
  obtain ⟨stats, hRead⟩ := run_recorded "getAttributes" bean.text names countBatch
    (run_attempt_readMany hOpen hReply)
  refine ⟨stats, ?_⟩
  rw [readMany, if_neg (by simpa using hNames), readNamed, Action.run_answeredBy_bind hRead]
  rfl

end run

end Session

namespace Agent

/-- The time passes for what carries the requests. -/
def State.tick {κ : Type} (tick : Nat → κ → κ) (milliseconds : Nat) (state : State κ) : State κ :=
  { state with carrier := tick milliseconds state.carrier }

/-- The time passes for a session and for the connector. -/
def elapse {κ : Type} (tick : Nat → κ → κ) (milliseconds : Nat)
    (whole : BeanBridge.Session × State κ) : BeanBridge.Session × State κ :=
  (whole.1.tick milliseconds, whole.2.tick tick milliseconds)

variable {κ : Type} {settings : Settings} {files : Files} {transport : Http.Transport κ}
  {tick : Nat → κ → κ} {state ready : State κ} {own : Session} {after : κ}

/-- What is done by the carrier runs as it does by itself. -/
theorem run_onCarrier {α : Type} (act : Timed κ α) (state : State κ) :
    ((onCarrier act) state).run (State.tick tick) =
      (((act state.carrier).run tick).1,
        { state with carrier := ((act state.carrier).run tick).2 }) :=
  Dialogue.run_focus tick (fun _ _ _ => rfl) (fun _ _ _ _ => rfl) _ _

/-- A call over a session of the connector comes to what is read from the agent's answer. -/
theorem run_answer {α : Type} {handle : SessionHandle} {question : List (String × Json)}
    {outcome : Except ConnectorError Json} (hOwn : ready.sessions[handle.number]? = some own)
    (hAsk : (ask settings transport own question ready.carrier).run tick = (outcome, after))
    (read : Json → Except ConnectorError α) :
    (answer settings transport handle question read ready).run (State.tick tick) =
      (.value (outcome.bind read), { ready with carrier := after }) := by
  rw [answer, Action.get_bind_apply]
  simp only [hOwn]
  refine (Dialogue.run_bind _ _).trans ?_
  rw [run_onCarrier, hAsk]
  rfl

variable {session : BeanBridge.Session} {connection : Connection} {handle : SessionHandle}
  {bean : BeanName} {names : List String} {members : List (String × Json)}

/-- The object that an agent answers a read with, as the values of the names asked for. -/
theorem run_readMany (files : Files) (hOwn : ready.sessions[handle.number]? = some own)
    (hAsk : (ask settings transport own (readQuestion bean (.array (names.map .string)))
      ready.carrier).run tick = (.ok (.object members), after)) :
    (connector settings files transport (.readMany handle bean names) ready).run
        (State.tick tick) =
      (.value (.ok (takeValues names members)), { ready with carrier := after }) :=
  run_answer hOwn hAsk (values names)

/-- An endpoint in memory delivers a value each time that a name comes. -/
theorem readMany_of_members {row : Memory.Bean} (hFailing : row.failing = [])
    (hBatch : row.batchFailure = none)
    (hAttributes : ∀ name, row.attributes.lookup name = (members.lookup name).map Value.ofJson)
    (names : List String) : row.readMany names = .ok (delivered names members) := by
  rw [Memory.Bean.readMany_eq hBatch, delivered]
  congr 2
  funext name
  rw [Memory.Bean.delivered?, hFailing, ← hAttributes]
  rfl

/-- When an agent answers a read of several attributes with an object, each name asked for gives its
value once, in the order asked.  Reported as missing are the names that the object has no member for,
and those that were asked for again.  When no name is, each gives what an endpoint in memory with the
same attributes gives. -/
theorem missing_iff_absent_or_repeated
    (hOpen : (Connection.ensure.answeredBy (connector settings files transport)
      (session.connection, state)).run (fun milliseconds whole =>
        (whole.1, whole.2.tick tick milliseconds)) = (.value (.ok handle), (connection, ready)))
    (hOwn : ready.sessions[handle.number]? = some own) (hNames : names ≠ [])
    (hAsk : (ask settings transport own (readQuestion bean (.array (names.map .string)))
      ready.carrier).run tick = (.ok (.object members), after)) :
    let values := delivered names.eraseDups members
    let entries := Session.batchEntries bean names values
    (connector settings files transport (.readMany handle bean names) ready).run (State.tick tick) =
        (.value (.ok values), { ready with carrier := after }) ∧
      (∃ stats, ((Session.readMany bean names).answeredBy (connector settings files transport)
          (session, state)).run (Session.elapse (State.tick tick)) =
        (.value ⟨entries, none⟩, (⟨connection, stats⟩, { ready with carrier := after }))) ∧
      (∀ name, Session.missingEntry bean name ∈ entries ↔
        name ∈ names ∧ (members.lookup name = none ∨ 2 ≤ names.count name)) ∧
      (names.Nodup → values = delivered names members ∧
        ∀ name, Session.missingEntry bean name ∈ entries → members.lookup name = none) ∧
      ∀ row : Memory.Bean, row.failing = [] → row.batchFailure = none →
        (∀ name, row.attributes.lookup name = (members.lookup name).map Value.ofJson) →
        row.readMany names = .ok (delivered names members) := by
  intro values entries
  have hReply := run_readMany files hOwn hAsk
  rw [takeValues_eq] at hReply
  have hMissing (name : String) : Session.missingEntry bean name ∈ entries ↔
      name ∈ names ∧ (members.lookup name = none ∨ 2 ≤ names.count name) := by
    rw [Session.missingEntry_mem_batchEntries, ← mem_missing_takeValues, takeValues_eq]
  refine ⟨hReply, Session.run_readMany_of_values hOpen hNames hReply, hMissing, ?_, ?_⟩
  · intro hNodup
    refine ⟨by rw [← takeValues_of_nodup hNodup, takeValues_eq], fun name hName => ?_⟩
    obtain ⟨hAsked, hAbsent | hRepeated⟩ := (hMissing name).mp hName
    · exact hAbsent
    · rw [hNodup.count, if_pos hAsked] at hRepeated
      omega
  · exact fun row hFailing hBatch hAttributes => readMany_of_members hFailing hBatch hAttributes names

/-- An agent that answers every request with one value of an attribute. -/
def oneValue : Http.Transport Unit := fun _ =>
  pure (.answer 200 "\x7b\"status\":200,\"value\":\x7b\"X\":1\x7d\x7d".toUTF8)

/-- A session over that agent. -/
def oneValueSession : Session where
  agent := { scheme := "http", host := some (.name "h"), path := .segments [""] }

theorem run_ask_oneValue (question : List (String × Json)) :
    (ask {} oneValue oneValueSession question ()).run (fun _ => id) =
      (.ok (.object [("X", .whole 1)]), ()) := by
  rfl

/-- Of three names one is absent and one is not repeated. -/
theorem missing_iff_absent_or_repeated_of_three :
    let names := ["Y", "X", "X"]
    let members := [("X", Json.whole 1)]
    let values := delivered names.eraseDups members
    let entries := Session.batchEntries Memory.sampleName names values
    let session : BeanBridge.Session := { connection := { session := some ⟨0⟩ } }
    let state : State Unit := ⟨[oneValueSession], ()⟩
    (connector {} {} oneValue (.readMany ⟨0⟩ Memory.sampleName names) state).run
        (State.tick fun _ => id) = (.value (.ok values), state) ∧
      (∃ stats, ((Session.readMany Memory.sampleName names).answeredBy (connector {} {} oneValue)
          (session, state)).run (Session.elapse (State.tick fun _ => id)) =
        (.value ⟨entries, none⟩, ({ session with stats }, state))) ∧
      (∀ name, Session.missingEntry Memory.sampleName name ∈ entries ↔
        name ∈ names ∧ (members.lookup name = none ∨ 2 ≤ names.count name)) := by
  intro names members values entries session state
  have hOpen : (Connection.ensure.answeredBy (connector {} {} oneValue)
      (session.connection, state)).run (fun milliseconds whole =>
        (whole.1, whole.2.tick (fun _ => id) milliseconds)) =
          (.value (.ok ⟨0⟩), (session.connection, state)) := rfl
  obtain ⟨hReply, hRead, hMissing, -⟩ :=
    missing_iff_absent_or_repeated hOpen rfl (List.cons_ne_nil _ _) (run_ask_oneValue _)
  exact ⟨hReply, hRead, hMissing⟩

/-- Asked for twice, an attribute that the agent answered gives one value and is reported missing,
where an endpoint in memory gives two. -/
theorem answered_name_reported_missing :
    let names := ["X", "X"]
    let members := [("X", Json.whole 1)]
    let row : Memory.Bean := { name := Memory.sampleName, attributes := [("X", .integer 1)] }
    let session : BeanBridge.Session := { connection := { session := some ⟨0⟩ } }
    let state : State Unit := ⟨[oneValueSession], ()⟩
    ((ask {} oneValue oneValueSession
        (readQuestion Memory.sampleName (.array (names.map .string))) ()).run fun _ => id) =
      (.ok (.object members), ()) ∧
    (connector {} {} oneValue (.readMany ⟨0⟩ Memory.sampleName names) state).run
        (State.tick fun _ => id) = (.value (.ok [("X", .integer 1)]), state) ∧
    row.readMany names = .ok [("X", .integer 1), ("X", .integer 1)] ∧
    ∃ entries stats,
      ((Session.readMany Memory.sampleName names).answeredBy (connector {} {} oneValue)
          (session, state)).run (Session.elapse (State.tick fun _ => id)) =
        (.value ⟨entries, none⟩, ({ session with stats }, state)) ∧
      Session.missingEntry Memory.sampleName "X" ∈ entries := by
  intro names members row session state
  have hReply : (connector {} {} oneValue (.readMany ⟨0⟩ Memory.sampleName names) state).run
      (State.tick fun _ => id) = (.value (.ok [("X", .integer 1)]), state) := by
    have hTaken : takeValues names members = [("X", .integer 1)] := by
      simp [takeValues, names, members, Value.ofJson]
    rw [run_readMany {} rfl (run_ask_oneValue _), hTaken]
  have hOpen : (Connection.ensure.answeredBy (connector {} {} oneValue)
      (session.connection, state)).run (fun milliseconds whole =>
        (whole.1, whole.2.tick (fun _ => id) milliseconds)) =
          (.value (.ok ⟨0⟩), (session.connection, state)) := rfl
  obtain ⟨stats, hRead⟩ :=
    Session.run_readMany_of_values hOpen (List.cons_ne_nil _ _) hReply
  refine ⟨run_ask_oneValue _, hReply, rfl, _, stats, hRead, ?_⟩
  rw [Session.missingEntry_mem_batchEntries]
  exact List.mem_singleton_self _

end Agent

end BeanBridge
