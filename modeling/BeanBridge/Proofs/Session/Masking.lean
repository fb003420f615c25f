import BeanBridge.Proofs.Dialogue.InStep
import BeanBridge.Proofs.Stats.View
import BeanBridge.Session.Operation

/-! Settings that are masked.  A masking says which settings pass for one another.  In sessions whose
settings do, every operation asks the same of the endpoint and has the same result, so what is masked
never shows. -/

namespace BeanBridge

/-- Settings that may pass for one another. -/
structure Masking where
  settings : Config → Config → Prop
  /-- What may then be said to the endpoint when a session is opened. -/
  environments : Environment → Environment → Prop
  /-- Calls are recorded in the same way as well. -/
  keepsRecords : Prop

/-- Nothing but what is masked differs, as far as a session looks at its settings. -/
structure Masking.Sound (masking : Masking) : Prop where
  refl : ∀ config, masking.settings config config
  target : ∀ config config', masking.settings config config' → config.target = config'.target
  verbose : ∀ config config', masking.settings config config' → config.verbose = config'.verbose
  environment : ∀ config config', masking.settings config config' →
    masking.environments config.environment config'.environment
  timeout : ∀ config config', masking.settings config config' →
    config.requestTimeout = config'.requestTimeout
  records : ∀ config config', masking.settings config config' → masking.keepsRecords →
    config.recordsStats = config'.recordsStats ∧ config.statsCapacity = config'.statsCapacity

/-- Calls that do not differ but in what is masked. -/
inductive Masking.Calls (masking : Masking) : Call → Call → Prop where
  | same (call : Call) : Calls masking call call
  | connect (target : String) {environment environment' : Environment}
    (h : masking.environments environment environment') :
    Calls masking (.connect target environment) (.connect target environment')

/-- The connections have one session, and settings that pass for one another. -/
structure Connection.Akin (masking : Masking) (connection connection' : Connection) : Prop where
  session : connection.session = connection'.session
  config : Option.Rel masking.settings connection.config connection'.config

/-- The records are the same as well, if they are kept in the same way and looked at with the view. -/
structure Session.Akin (masking : Masking) (session session' : Session)
    (view : Stats.View := .full) : Prop where
  connection : session.connection.Akin masking session'.connection
  stats : masking.keepsRecords → view.stats session.stats = view.stats session'.stats

abbrev Connection.kinship (masking : Masking) : Kinship Connection Call.Reply where
  states := Akin masking
  questions := masking.Calls
  answers _ _ reply reply' := HEq reply reply'

abbrev Session.kinship (masking : Masking) (view : Stats.View := .full) :
    Kinship Session Call.Reply where
  states session session' := session.Akin masking session' view
  questions := masking.Calls
  answers _ _ reply reply' := HEq reply reply'

/-! ### The connection -/

namespace Connection

variable {masking : Masking}

theorem inStep_release : release.InStep (kinship masking) Eq release := by
  rintro ⟨config, session⟩ ⟨config', _⟩ ⟨rfl, hConfig⟩
  cases session with
  | none => exact .done ⟨rfl, hConfig⟩ rfl
  | some session =>
    refine .ask ⟨rfl, hConfig⟩ (.same _) ?_
    intro reply reply' later later' _ hLater
    exact .done hLater rfl

theorem inStep_openWith (hSound : masking.Sound) {config config' : Config}
    (h : masking.settings config config') :
    (openWith config).InStep (kinship masking) Eq (openWith config') := by
  refine inStep_release.bind fun _ _ _ => ?_
  rw [← hSound.target _ _ h, ← hSound.verbose _ _ h]
  have hCalls : (kinship masking).questions (.connect config.target config.environment)
      (.connect config.target config'.environment) := .connect _ (hSound.environment _ _ h)
  refine (Action.InStep.ask hCalls).bind ?_
  intro reply reply' hReply
  obtain rfl := eq_of_heq hReply
  cases reply with
  | error error => exact .pure rfl
  | ok session =>
    have hKept (connection connection' : Connection) (hAkin : connection.Akin masking connection') :
        Akin masking { connection with session := some session }
          { connection' with session := some session } := ⟨rfl, hAkin.config⟩
    exact (Action.InStep.modify hKept).bind fun _ _ _ => .pure rfl

theorem inStep_connect (hSound : masking.Sound) {config config' : Config}
    (h : masking.settings config config') :
    (connect config).InStep (kinship masking) Eq (connect config') := by
  have hKept (connection connection' : Connection) (hAkin : connection.Akin masking connection') :
      Akin masking { connection with config := some config }
        { connection' with config := some config' } := ⟨hAkin.session, .some h⟩
  exact (Action.InStep.modify hKept).bind fun _ _ _ => inStep_openWith hSound h

theorem inStep_disconnect : disconnect.InStep (kinship masking) Eq disconnect := by
  refine inStep_release.bind ?_
  rintro released _ rfl
  cases released <;> exact .pure rfl

theorem inStep_ensure (hSound : masking.Sound) :
    ensure.InStep (kinship masking) Eq ensure := by
  rintro ⟨config, session⟩ ⟨config', _⟩ ⟨rfl, hConfig⟩
  cases session with
  | some session => exact .done ⟨rfl, hConfig⟩ rfl
  | none =>
    cases hConfig with
    | none => exact .done ⟨rfl, .none⟩ rfl
    | @some config config' hConfig =>
      have hAkin : Akin masking ⟨some config, none⟩ ⟨some config', none⟩ := ⟨rfl, .some hConfig⟩
      refine (inStep_openWith hSound hConfig _ _ hAkin).bind ?_
      rintro (failure | opened) _ ⟨settings, session⟩ ⟨settings', _⟩ rfl ⟨rfl, hSettings⟩
      · exact .done ⟨rfl, hSettings⟩ rfl
      · cases session <;> exact .done ⟨rfl, hSettings⟩ rfl

end Connection

/-! ### Operations in a session -/

namespace Session

variable {masking : Masking} {view : Stats.View} {α β : Type}

/-- What is masked does not show in what is done. -/
def Masks (masking : Masking) (view : Stats.View) (act : Act α) : Prop :=
  act.InStep (kinship masking view) Eq act

theorem Masks.pure (value : α) : Masks masking view (Pure.pure value) := Action.InStep.pure rfl

theorem Masks.bind {act : Act α} {next : α → Act β} (h : Masks masking view act)
    (hNext : ∀ value, Masks masking view (next value)) : Masks masking view (act >>= next) := by
  refine Action.InStep.bind h ?_
  rintro value _ rfl
  exact hNext value

theorem masks_ask (call : Call) : Masks masking view (Action.ask call) := by
  have hCalls : (kinship masking view).questions call call := .same call
  exact (Action.InStep.ask hCalls).mono fun _ _ => eq_of_heq

theorem inStep_onConnection {act act' : Connection.Act α}
    (h : act.InStep (Connection.kinship masking) Eq act') :
    (onConnection act).InStep (kinship masking view) Eq (onConnection act') := by
  refine h.focus ?_ ?_
  · intro later later' hLater
    exact hLater.connection
  · intro connection connection' later later' hConnection hLater
    exact ⟨hConnection, hLater.stats⟩

theorem inStep_onStats {change change' : Stats → Stats}
    (h : masking.keepsRecords → ∀ stats stats', view.stats stats = view.stats stats' →
      view.stats (change stats) = view.stats (change' stats')) :
    (onStats change).InStep (kinship masking view) Eq (onStats change') := by
  refine Action.InStep.modify ?_
  intro session session' hAkin
  exact ⟨hAkin.connection, fun hKeeps => h hKeeps _ _ (hAkin.stats hKeeps)⟩

theorem inStep_recorded {act act' : Act α} (h : act.InStep (kinship masking view) Eq act')
    (kind bean : String) (attributes : List String) (count : α → Option Nat) :
    (recorded kind bean attributes count act).InStep (kinship masking view) Eq
      (recorded kind bean attributes count act') := by
  have hBegin : (beginRecord kind bean attributes).InStep (kinship masking view)
      (fun handle handle' => masking.keepsRecords → view.handle handle = view.handle handle')
      (beginRecord kind bean attributes) := by
    intro session session' hAkin
    have hRecord (hKeeps : masking.keepsRecords) := view.record_congr (hAkin.stats hKeeps) kind
    refine .done ⟨hAkin.connection, fun hKeeps => ?_⟩ fun hKeeps => (hRecord hKeeps).1
    exact view.describe_congr (hRecord hKeeps).2 (hRecord hKeeps).1 bean attributes
  refine hBegin.bind fun handle handle' hHandle => h.bind ?_
  rintro value _ rfl
  refine (inStep_onStats fun hKeeps stats stats' hStats => ?_).bind fun _ _ _ => .pure rfl
  cases count value with
  | none => exact view.finish_congr hStats (hHandle hKeeps)
  | some number =>
    exact view.finish_congr (view.succeed_congr hStats (hHandle hKeeps) number) (hHandle hKeeps)

theorem Masks.recorded {act : Act α} (h : Masks masking view act) (kind bean : String)
    (attributes : List String) (count : α → Option Nat) :
    Masks masking view (recorded kind bean attributes count act) :=
  inStep_recorded h kind bean attributes count

theorem masks_givingUp (activity : Activity) (result : Except Failure (Except ConnectorError α)) :
    Masks masking view (givingUp activity result) := by
  rcases result with failure | error | value
  · exact .pure _
  · rw [givingUp]
    split
    · exact Masks.bind (inStep_onConnection Connection.inStep_release) fun _ => .pure _
    · exact .pure _
  · exact .pure _

section operations

variable (hSound : masking.Sound)
include hSound

theorem masks_attempt {request : SessionHandle → Act (Except ConnectorError α)}
    (h : ∀ session, Masks masking view (request session)) : Masks masking view (attempt request) := by
  refine Masks.bind (inStep_onConnection (Connection.inStep_ensure hSound)) ?_
  rintro (failure | session)
  · exact .pure _
  · exact (h session).bind fun _ => .pure _

theorem masks_call (activity : Activity) {request : SessionHandle → Act (Except ConnectorError α)}
    (h : ∀ session, Masks masking view (request session)) : Masks masking view (call activity request) :=
  (masks_attempt hSound h).bind fun _ => masks_givingUp activity _

theorem inStep_connect {config config' : Config} (h : masking.settings config config') :
    (connect config).InStep (kinship masking view) Eq (connect config') := by
  refine (inStep_onStats fun hKeeps stats stats' hStats => ?_).bind fun _ _ _ =>
    inStep_recorded (inStep_onConnection (Connection.inStep_connect hSound h)) "connect" "" [] _
  obtain ⟨hRecords, hCapacity⟩ := hSound.records _ _ h hKeeps
  rw [view.configure, view.configure, hRecords, hCapacity, hStats]

theorem masks_beans (pattern : BeanName) : Masks masking view (beans pattern) :=
  ((masks_call hSound _ fun session => masks_ask (.names session pattern)).bind fun _ =>
    .pure _).recorded _ _ _ _

theorem masks_attributeNames (bean : BeanName) : Masks masking view (attributeNames bean) :=
  (((masks_call hSound _ fun session => masks_ask (.describe session bean)).bind fun _ =>
    .pure _).recorded _ _ _ _).bind fun _ => .pure _

theorem masks_fetch (bean : BeanName) (name : String) : Masks masking view (fetch bean name) :=
  (masks_call hSound _ fun session => masks_ask (.read session bean name)).bind fun _ => .pure _

theorem masks_fetchEach (bean : BeanName) (names : List String) :
    Masks masking view (fetchEach bean names) := by
  induction names with
  | nil => exact .pure _
  | cons name names ih =>
    refine (masks_fetch hSound bean name).bind ?_
    rintro (failure | entries)
    · cases failure with
      | connection message => exact .pure _
      | operation message cause stacktrace => exact ih.bind fun _ => .pure _
    · exact ih.bind fun _ => .pure _

theorem masks_readNamed (bean : BeanName) (names : List String) :
    Masks masking view (readNamed bean names) := by
  refine ((masks_attempt hSound fun session => masks_ask (.readMany session bean names)).recorded
    _ _ _ _).bind fun result => (masks_givingUp .readingAttributes result).bind ?_
  rintro (failure | error | values)
  · exact .pure _
  · exact masks_fetchEach hSound bean names
  · exact .pure _

theorem masks_readMany (bean : BeanName) (names : List String) :
    Masks masking view (readMany bean names) := by
  rw [readMany]
  split
  · refine (masks_attributeNames hSound bean).bind ?_
    rintro (failure | names)
    · exact .pure _
    · exact masks_readNamed hSound bean names
  · exact masks_readNamed hSound bean names

theorem masks_readEach (names : List String) (beans : List BeanName) :
    Masks masking view (readEach names beans) := by
  induction beans with
  | nil => exact .pure _
  | cons bean beans ih =>
    refine (masks_readMany hSound bean names).bind ?_
    rintro ⟨entries, failure⟩
    cases failure with
    | some failure => exact .pure _
    | none => exact ih.bind fun _ => .pure _

theorem masks_queryMany (pattern : BeanName) (names : List String) :
    Masks masking view (queryMany pattern names) := by
  rw [queryMany]
  split
  · refine (masks_beans hSound pattern).bind ?_
    rintro (failure | beans)
    · exact .pure _
    · exact masks_readEach hSound names beans
  · exact masks_readEach hSound names [pattern]

end operations

end Session

/-- Operations that do not differ but in what is masked of settings. -/
inductive Operation.Akin (masking : Masking) : Operation → Operation → Prop where
  | same (operation : Operation) : Akin masking operation operation
  | connect {config config' : Config} (h : masking.settings config config') :
    Akin masking (.connect config) (.connect config')

theorem Operation.Akin.inStep {masking : Masking} {view : Stats.View} (hSound : masking.Sound)
    {operation operation' : Operation} (h : operation.Akin masking operation') :
    operation.act.InStep (Session.kinship masking view) Eq operation'.act := by
  have hConnect {config config' : Config} (h : masking.settings config config') :
      (Operation.connect config).act.InStep (Session.kinship masking view) Eq
        (Operation.connect config').act :=
    (Session.inStep_connect hSound h).map fun _ _ => congrArg (Except.map _)
  cases h with
  | connect h => exact hConnect h
  | same =>
    cases operation with
    | connect config => exact hConnect (hSound.refl config)
    | disconnect =>
      exact (Session.inStep_recorded (Session.inStep_onConnection Connection.inStep_disconnect)
        _ _ _ _).map fun _ _ => congrArg (Except.map _)
    | beanNames pattern =>
      exact Session.Masks.bind ((Session.masks_beans hSound pattern).bind fun _ => .pure _)
        fun _ => .pure _
    | attributeNames bean =>
      exact (Session.masks_attributeNames hSound bean).bind fun _ => .pure _
    | read bean name =>
      exact ((Session.masks_fetch hSound bean name).recorded _ _ _ _).bind fun _ => .pure _
    | readMany bean names => exact (Session.masks_readMany hSound bean names).bind fun _ => .pure _
    | queryMany pattern names =>
      exact (Session.masks_queryMany hSound pattern names).bind fun _ => .pure _

end BeanBridge
