import BeanBridge.Connector.Scripted
import BeanBridge.Proofs.Session.Exchanges
import BeanBridge.Proofs.Value.Leaves

/-! The entries that reading returns.  Each reports a scalar of a value that the endpoint delivered,
or a failure of an attribute that was asked for, and is named after what it was read from; this
holds of attributes read alone, together and one by one, over however many beans. -/

namespace BeanBridge.Session

/-- The endpoint has delivered the value of the attribute, alone or together with others. -/
inductive Delivered (past : List Exchange) (bean : BeanName) (name : String) (value : Value) :
    Prop
  | alone (session : SessionHandle) :
    ⟨.read session bean name, .value (.ok value)⟩ ∈ past → Delivered past bean name value
  | together {names : List String} {values : List (String × Value)} (session : SessionHandle) :
    ⟨.readMany session bean names, .value (.ok values)⟩ ∈ past → (name, value) ∈ values →
    Delivered past bean name value

/-- The attribute was asked for, or came without that. -/
inductive Wanted (past : List Exchange) (bean : BeanName) (name : String) : Prop
  | asked {session : SessionHandle} {names : List String}
    (outcome : Outcome (Call.readMany session bean names).Reply) :
    ⟨.readMany session bean names, outcome⟩ ∈ past → name ∈ names → Wanted past bean name
  | delivered {value : Value} : Delivered past bean name value → Wanted past bean name

/-- Where an entry about a bean comes from. -/
inductive Stems (past : List Exchange) (bean : BeanName) : Entry → Prop
  | failed {name status : String} : Wanted past bean name → status ≠ "" →
    Stems past bean (.failed (qualifiedName bean name) status)
  | reported {name : String} {value : Value} {entry : Entry} :
    Delivered past bean name value → value.Reports (qualifiedName bean name) entry →
    Stems past bean entry

section

variable {past later : List Exchange} {bean : BeanName} {name : String}

theorem Delivered.mono {value : Value} (h : Delivered past bean name value)
    (hLater : past ⊆ later) : Delivered later bean name value := by
  cases h with
  | alone session hMem => exact .alone session (hLater hMem)
  | together session hMem hValue => exact .together session (hLater hMem) hValue

theorem Wanted.mono (h : Wanted past bean name) (hLater : past ⊆ later) :
    Wanted later bean name := by
  cases h with
  | asked outcome hMem hName => exact .asked outcome (hLater hMem) hName
  | delivered hDelivered => exact .delivered (hDelivered.mono hLater)

theorem Stems.mono {entry : Entry} (h : Stems past bean entry) (hLater : past ⊆ later) :
    Stems later bean entry := by
  cases h with
  | failed hWanted hStatus => exact .failed (hWanted.mono hLater) hStatus
  | reported hDelivered hReports => exact .reported (hDelivered.mono hLater) hReports

theorem statusText_ne_empty {complaint : String} (h : complaint ≠ "") (failure : Failure) :
    statusText complaint failure ≠ "" := by
  cases failure <;> simp [statusText, h]

theorem stems_entriesOf {value : Value} (h : Delivered past bean name value) :
    ∀ entry ∈ entriesOf bean name value, Stems past bean entry := by
  rw [entriesOf]
  split
  next entries hFlatten =>
    intro entry hEntry
    exact .reported h (Value.reports_flatten hFlatten entry hEntry)
  next reason hFlatten =>
    intro entry hEntry
    obtain rfl := List.mem_singleton.mp hEntry
    exact .failed (.delivered h) (statusText_ne_empty (by decide) _)

theorem missing_subset (names : List String) (values : List (String × Value)) :
    missing names values ⊆ names := by
  induction values generalizing names with
  | nil => exact List.Subset.refl names
  | cons head values ih => exact List.Subset.trans (ih (names.erase head.1)) List.erase_subset

theorem stems_batchEntries {session : SessionHandle} {names : List String}
    {values : List (String × Value)}
    (h : ⟨.readMany session bean names, .value (.ok values)⟩ ∈ past) :
    ∀ entry ∈ batchEntries bean names values, Stems past bean entry := by
  intro entry hEntry
  rcases List.mem_append.mp hEntry with hValue | hMissing
  · obtain ⟨⟨name, value⟩, hMem, hEntry⟩ := List.mem_flatMap.mp hValue
    exact stems_entriesOf (.together session h hMem) entry hEntry
  · obtain ⟨name, hName, rfl⟩ := List.mem_map.mp hMissing
    exact .failed (.asked _ h (missing_subset names values hName)) (by decide)

end

/-! ### Operations -/

/-- Any call may be made. -/
def anyCall (_ : List Exchange) (_ : Call) : Prop := True

section operations

variable {α : Type} {state : Session} {past : List Exchange}

theorem leaves_anyCall (act : Act α) (state : Session) (past : List Exchange) :
    Leaves (tracked anyCall) (fun _ _ later => past ⊆ later) act state past := by
  rw [Leaves]
  induction act state generalizing past with
  | done state value => exact List.Subset.refl past
  | ask state call resume ih =>
    refine ⟨trivial, ?_⟩
    rintro reply state next - rfl
    exact (ih reply state _).mono fun _ _ _ hGrows =>
      List.Subset.trans (List.subset_append_left _ _) hGrows

theorem Leaves.grows {ending : α → Connection → List Exchange → Prop} {act : Act α}
    (h : Leaves (tracked anyCall) ending act state past) :
    Leaves (tracked anyCall)
      (fun value after later => past ⊆ later ∧ ending value after later) act state past :=
  (leaves_anyCall act state past).and h

section answer

variable {P : Except ConnectorError α → List Exchange → Prop}
  {request : SessionHandle → Act (Except ConnectorError α)}

/-- What an answer tells is known after the call, unless there is no session. -/
theorem leaves_attempt_answer
    (hRequest : ∀ session state past,
      Leaves (tracked anyCall) (fun reply _ later => P reply later) (request session) state past) :
    Leaves (tracked anyCall) (fun result _ later => ∀ reply, result = .ok reply → P reply later)
      (attempt request) state past := by
  refine (leaves_anyCall (onConnection Connection.ensure) state past).bind ?_
  rintro (failure | session) state past -
  · nofun
  · refine (hRequest session state past).map ?_
    rintro reply _ past hReply _ ⟨⟩
    exact hReply

theorem leaves_givingUp_answer (activity : Activity)
    {result : Except Failure (Except ConnectorError α)}
    (hReply : ∀ reply, result = .ok reply → P reply past) :
    Leaves (tracked anyCall) (fun result _ later => ∀ reply, result = .ok reply → P reply later)
      (givingUp activity result) state past := by
  rcases result with failure | error | value
  · exact hReply
  · rw [givingUp]
    cases hIo : error.isIo with
    | true =>
      simp only [if_true]
      refine (leaves_anyCall (onConnection Connection.release) state past).map ?_
      rintro _ _ _ _ reply ⟨⟩
    | false =>
      simp only [Bool.false_eq_true, if_false]
      exact hReply
  · exact hReply

theorem leaves_call_answer (activity : Activity)
    (hRequest : ∀ session state past,
      Leaves (tracked anyCall) (fun reply _ later => P reply later) (request session) state past) :
    Leaves (tracked anyCall) (fun result _ later => ∀ reply, result = .ok reply → P reply later)
      (call activity request) state past :=
  (leaves_attempt_answer hRequest).bind fun _ _ _ => leaves_givingUp_answer activity

end answer

theorem leaves_answer (call : Call) :
    Leaves (tracked anyCall) (fun reply _ later => ⟨call, .value reply⟩ ∈ later) (Action.ask call)
      state past := by
  refine ⟨trivial, ?_⟩
  rintro reply later next - rfl
  exact List.mem_append_right _ (List.mem_singleton_self _)

def AllStem (bean : BeanName) (entries : List Entry) (past : List Exchange) : Prop :=
  ∀ entry ∈ entries, Stems past bean entry

theorem AllStem.append {bean : BeanName} {entries entries' : List Entry}
    (h : AllStem bean entries past) (h' : AllStem bean entries' past) :
    AllStem bean (entries ++ entries') past :=
  List.forall_mem_append.mpr ⟨h, h'⟩

theorem AllStem.mono {bean : BeanName} {entries : List Entry} {later : List Exchange}
    (h : AllStem bean entries past) (hLater : past ⊆ later) : AllStem bean entries later :=
  fun entry hEntry => (h entry hEntry).mono hLater

theorem leaves_fetch_stem (bean : BeanName) (name : String) :
    Leaves (tracked anyCall)
      (fun result _ later => ∀ entries, result = .ok entries → AllStem bean entries later)
      (fetch bean name) state past := by
  have hAnswer (session : SessionHandle) (state : Session) (past : List Exchange) :
      Leaves (tracked anyCall) (fun (reply : Except ConnectorError Value) _ later =>
          ∃ session, ⟨.read session bean name, .value reply⟩ ∈ later)
        (Action.ask (Call.read session bean name)) state past :=
    (leaves_answer (.read session bean name)).mono fun reply _ later hMem => ⟨session, hMem⟩
  refine (leaves_call_answer .readingAttribute hAnswer).map ?_
  rintro (failure | error | value) after later hReply entries hEntries
  · nomatch hEntries
  · nomatch hEntries
  · obtain ⟨session, hMem⟩ := hReply _ rfl
    change (value.flatten (qualifiedName bean name)).mapError _ = _ at hEntries
    cases hFlatten : value.flatten (qualifiedName bean name) with
    | error reason =>
      rw [hFlatten] at hEntries
      nomatch hEntries
    | ok found =>
      rw [hFlatten] at hEntries
      obtain rfl := Except.ok.inj hEntries
      intro entry hEntry
      exact .reported (.alone session hMem) (Value.reports_flatten hFlatten entry hEntry)

theorem leaves_read_stem (bean : BeanName) (name : String) :
    Leaves (tracked anyCall)
      (fun result _ later => ∀ entries, result = .ok entries → AllStem bean entries later)
      (read bean name) state past :=
  Leaves.recorded (fun _ _ => leaves_fetch_stem bean name) _ _ _ _

theorem leaves_fetchEach_stem {bean : BeanName} {names : List String}
    (h : ∀ name ∈ names, Wanted past bean name) :
    Leaves (tracked anyCall) (fun collected _ later => AllStem bean collected.entries later)
      (fetchEach bean names) state past := by
  induction names generalizing state past with
  | nil => exact List.forall_mem_nil _
  | cons name names ih =>
    obtain ⟨hName, hNames⟩ := List.forall_mem_cons.mp h
    refine (leaves_fetch_stem bean name).grows.bind ?_
    rintro result state later ⟨hGrows, hFetched⟩
    have hRest : Leaves (tracked anyCall)
        (fun rest _ last => later ⊆ last ∧ AllStem bean rest.entries last) (fetchEach bean names)
        state later := (ih fun name hMem => (hNames name hMem).mono hGrows).grows
    rcases result with failure | entries
    · cases failure with
      | connection message => exact List.forall_mem_nil _
      | operation message cause stacktrace =>
        refine hRest.map ?_
        rintro rest after last ⟨hLater, hStem⟩
        refine List.forall_mem_cons.mpr ⟨?_, hStem⟩
        exact .failed (hName.mono (List.Subset.trans hGrows hLater))
          (statusText_ne_empty (by decide) _)
    · refine hRest.map ?_
      rintro rest after last ⟨hLater, hStem⟩
      exact ((hFetched entries rfl).mono hLater).append hStem

theorem leaves_readNamed_stem (bean : BeanName) (names : List String) :
    Leaves (tracked anyCall) (fun collected _ later => AllStem bean collected.entries later)
      (readNamed bean names) state past := by
  let answered (reply : Except ConnectorError (List (String × Value))) (past : List Exchange) :=
    ∃ session, ⟨.readMany session bean names, .value reply⟩ ∈ past
  have hAnswer (session : SessionHandle) (state : Session) (past : List Exchange) :
      Leaves (tracked anyCall) (fun reply _ later => answered reply later)
        (Action.ask (Call.readMany session bean names)) state past :=
    (leaves_answer (.readMany session bean names)).mono fun reply _ later hMem => ⟨session, hMem⟩
  refine (Leaves.recorded (fun _ _ => leaves_attempt_answer hAnswer) "getAttributes" bean.text names
    _).bind fun _ _ _ hTried =>
      (leaves_givingUp_answer (P := answered) .readingAttributes hTried).bind ?_
  rintro (failure | error | values) state later hReply
  · exact List.forall_mem_nil _
  · obtain ⟨session, hMem⟩ := hReply _ rfl
    exact leaves_fetchEach_stem fun name hName => .asked _ hMem hName
  · obtain ⟨session, hMem⟩ := hReply _ rfl
    exact stems_batchEntries hMem

theorem leaves_readMany_stem (bean : BeanName) (names : List String) :
    Leaves (tracked anyCall) (fun collected _ later => AllStem bean collected.entries later)
      (readMany bean names) state past := by
  rw [readMany]
  split
  · refine (leaves_anyCall (attributeNames bean) state past).bind ?_
    rintro (failure | names) state later -
    · exact List.forall_mem_nil _
    · exact leaves_readNamed_stem bean names
  · exact leaves_readNamed_stem bean names

/-- Every entry stems from the exchanges over one of the beans. -/
def StemFrom (source : BeanName → Prop) (entries : List Entry) (past : List Exchange) : Prop :=
  ∀ entry ∈ entries, ∃ bean, source bean ∧ Stems past bean entry

theorem leaves_readEach_stem (names : List String) (beans : List BeanName) :
    Leaves (tracked anyCall)
      (fun result _ later => ∀ entries, result = .ok entries → StemFrom (· ∈ beans) entries later)
      (readEach names beans) state past := by
  induction beans generalizing state past with
  | nil =>
    rintro entries ⟨⟩
    exact List.forall_mem_nil _
  | cons bean beans ih =>
    refine (leaves_readMany_stem bean names).bind ?_
    rintro ⟨found, failure⟩ state later hFound
    cases failure with
    | some failure => nofun
    | none =>
      refine ih.grows.map ?_
      rintro result after last ⟨hLater, hRest⟩ entries hEntries
      cases result with
      | error failure => nomatch hEntries
      | ok rest =>
        obtain rfl := Except.ok.inj hEntries
        intro entry hEntry
        rcases List.mem_append.mp hEntry with hHere | hThere
        · exact ⟨bean, List.mem_cons_self, (hFound.mono hLater) entry hHere⟩
        · obtain ⟨other, hMem, hStems⟩ := hRest rest rfl entry hThere
          exact ⟨other, List.mem_cons_of_mem _ hMem, hStems⟩

/-- A query is over this bean: the endpoint has named it, or the query names it itself. -/
def Queried (pattern : BeanName) (past : List Exchange) (bean : BeanName) : Prop :=
  if pattern.isPattern then
    ∃ session beans, ⟨.names session pattern, .value (.ok beans)⟩ ∈ past ∧ bean ∈ beans
  else bean = pattern

theorem leaves_beans_named (pattern : BeanName) :
    Leaves (tracked anyCall)
      (fun result _ later => ∀ beans, result = .ok beans →
        ∃ session, ⟨.names session pattern, .value (.ok beans)⟩ ∈ later)
      (beans pattern) state past := by
  have hAnswer (session : SessionHandle) (state : Session) (past : List Exchange) :
      Leaves (tracked anyCall) (fun (reply : Except ConnectorError (List BeanName)) _ later =>
          ∃ session, ⟨.names session pattern, .value reply⟩ ∈ later)
        (Action.ask (Call.names session pattern)) state past :=
    (leaves_answer (.names session pattern)).mono fun reply _ later hMem => ⟨session, hMem⟩
  refine Leaves.recorded (fun _ _ => ?_) "queryMBeans" pattern.text [] _
  refine (leaves_call_answer .queryingBeans hAnswer).map ?_
  rintro (failure | error | found) after later hReply beans hBeans
  · nomatch hBeans
  · nomatch hBeans
  · obtain rfl := Except.ok.inj hBeans
    exact hReply _ rfl

theorem leaves_queryMany_stem (pattern : BeanName) (names : List String) :
    Leaves (tracked anyCall)
      (fun result _ later => ∀ entries, result = .ok entries →
        StemFrom (Queried pattern later) entries later)
      (queryMany pattern names) state past := by
  by_cases hPattern : pattern.isPattern = true
  · rw [queryMany, if_pos hPattern]
    refine (leaves_beans_named pattern).bind ?_
    rintro (failure | beans) state between hNamed
    · rintro entries ⟨⟩
    · obtain ⟨session, hMem⟩ := hNamed beans rfl
      refine (leaves_readEach_stem names beans).grows.mono ?_
      rintro result after later ⟨hLater, hStem⟩ entries hEntries entry hEntry
      obtain ⟨bean, hBean, hStems⟩ := hStem entries hEntries entry hEntry
      refine ⟨bean, ?_, hStems⟩
      rw [Queried, if_pos hPattern]
      exact ⟨session, beans, hLater hMem, hBean⟩
  · rw [queryMany, if_neg hPattern]
    refine (leaves_readEach_stem names [pattern]).mono ?_
    rintro result after later hStem entries hEntries entry hEntry
    obtain ⟨bean, hBean, hStems⟩ := hStem entries hEntries entry hEntry
    refine ⟨bean, ?_, hStems⟩
    rw [Queried, if_neg hPattern]
    exact List.mem_singleton.mp hBean

end operations

/-! ### What an entry shows -/

/-- An entry is well formed, and the exchanges over the bean account for it. -/
structure Grounded (past : List Exchange) (bean : BeanName) (entry : Entry) : Prop where
  /-- It reports a failure in words, or a value of its type. -/
  shape : entry.kind = .error ∧ entry.value = none ∧ entry.status ≠ "" ∨
    ∃ scalar, entry.kind = scalar.kind ∧ entry.value = some scalar ∧ entry.status = ""
  finite : ∀ x, entry.value = some (.double x) → x.isFinite = true
  /-- It is named after the attribute that failed, or after the path to a scalar of the value that
  was delivered, which it reports; finite numbers are reported as they are. -/
  origin : (∃ name, Wanted past bean name ∧ entry.value = none ∧
      entry.name = qualifiedName bean name) ∨
    ∃ name value path leaf, Delivered past bean name value ∧ value.Holds path leaf ∧
      entry.value = leaf.scalar? ∧ Value.nameBehind? (qualifiedName bean name) path = some entry.name ∧
      ∀ x, leaf = .double x → x.isFinite = true → entry.value = some (.double x)

theorem Stems.grounded {past : List Exchange} {bean : BeanName} {entry : Entry}
    (h : Stems past bean entry) : Grounded past bean entry := by
  cases h with
  | @failed name status hWanted hStatus =>
    exact ⟨.inl ⟨rfl, rfl, hStatus⟩, nofun, .inl ⟨name, hWanted, rfl, rfl⟩⟩
  | @reported name value _ hDelivered hReports =>
    obtain ⟨hHolds, hScalar, hName⟩ := hReports
    constructor
    · exact .inr ⟨_, rfl, rfl, rfl⟩
    · rintro x ⟨⟩
      exact Value.isFinite_of_scalar? hScalar
    · refine .inr ⟨name, value, _, _, hDelivered, hHolds, hScalar.symm, hName, ?_⟩
      rintro x rfl hFinite
      rw [Value.scalar?, Value.finite_of_isFinite hFinite] at hScalar
      exact hScalar.symm

/-- Whatever the connector does and in whatever state the session is, every entry that reading
returns is well formed, reports finite numbers only, and is named after the bean it was read from, the
attribute, and the keys of the fields on the way to its value. -/
theorem entries_grounded {κ : Type} (connector : Connector κ) (drift : Nat → κ → κ)
    (session : Session) (inner : κ) :
    (∀ bean name entries, let course := runNoted connector drift (read bean name) session inner
      course.1 = .value (.ok entries) → ∀ entry ∈ entries,
        Grounded (exchanges course.2.2.1) bean entry) ∧
    (∀ bean names collected,
      let course := runNoted connector drift (readMany bean names) session inner
      course.1 = .value collected → ∀ entry ∈ collected.entries,
        Grounded (exchanges course.2.2.1) bean entry) ∧
    ∀ pattern names entries,
      let course := runNoted connector drift (queryMany pattern names) session inner
      course.1 = .value (.ok entries) → ∀ entry ∈ entries, ∃ bean,
        Queried pattern (exchanges course.2.2.1) bean ∧
          Grounded (exchanges course.2.2.1) bean entry := by
  refine ⟨?_, ?_, ?_⟩
  · intro bean name entries course hCourse entry hEntry
    have hStem := (leaves_read_stem bean name).runNoted_value hCourse
    exact (hStem entries rfl entry hEntry).grounded
  · intro bean names collected course hCourse entry hEntry
    have hStem := (leaves_readMany_stem bean names).runNoted_value hCourse
    exact (hStem entry hEntry).grounded
  · intro pattern names entries course hCourse entry hEntry
    have hStem := (leaves_queryMany_stem pattern names).runNoted_value hCourse
    obtain ⟨bean, hQueried, hStems⟩ := hStem entries rfl entry hEntry
    exact ⟨bean, hQueried, hStems.grounded⟩

/-- An attribute that is no number, one with a field, and one that is not delivered. -/
theorem entries_grounded_odd_attributes :
    let session : Session := { connection := { session := some ⟨1⟩ } }
    let script : Script := { replies := [{ names := ["d:k=1"] },
      { values := [("Load", .double ⟨0x7ff8000000000000⟩),
        ("Memory", .composite [("used", .integer 7)])] }] }
    let course := runNoted Script.connector (fun _ => id)
      (queryMany ⟨"d", [], true⟩ ["Load", "Memory", "Gone"]) session script
    ∃ entries, course.1 = .value (.ok entries) ∧
      entries = [.ofScalar "d:k=1,attr=Load" (.double .zero),
        .ofScalar "d:k=1,attr=Memory.Used" (.int 7),
        .failed "d:k=1,attr=Gone" "failed to retrieve attribute value from server"] ∧
      ∀ entry ∈ entries, ∃ bean, Queried ⟨"d", [], true⟩ (exchanges course.2.2.1) bean ∧
        Grounded (exchanges course.2.2.1) bean entry := by
  intro session script course
  have hEntries : course.1.elim Except.toOption (fun _ => none) =
      some [.ofScalar "d:k=1,attr=Load" (.double .zero),
        .ofScalar "d:k=1,attr=Memory.Used" (.int 7),
        .failed "d:k=1,attr=Gone" "failed to retrieve attribute value from server"] := by
    decide +kernel
  rcases hCourse : course.1 with (failure | entries) | message
  · rw [hCourse] at hEntries
    nomatch hEntries
  · rw [hCourse] at hEntries
    exact ⟨entries, rfl, Option.some.inj hEntries,
      (entries_grounded Script.connector (fun _ => id) session script).2.2 _ _ entries hCourse⟩
  · rw [hCourse] at hEntries
    nomatch hEntries

end BeanBridge.Session
