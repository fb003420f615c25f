import BeanBridge.Proofs.Dialogue.InStep
import BeanBridge.Session.Operation
import Mathlib.Data.List.Forall2

/-! Stack traces on their way into results.  Every operation is held against itself with a connector
that leaves the stack traces out of its errors.  Both do the same, and while the settings do not ask
for stack traces their results differ in nothing but the traces of refusals. -/

namespace BeanBridge

/-! ### Errors without stack traces -/

/-- The error without its stack trace. -/
def ConnectorError.untraced : ConnectorError → ConnectorError
  | io message _ => io message ""
  | remote kind message _ => remote kind message ""
  | protocol message => protocol message

namespace ConnectorError

@[simp] theorem message_untraced (error : ConnectorError) :
    error.untraced.message = error.message := by
  cases error <;> rfl

@[simp] theorem stacktrace_untraced (error : ConnectorError) : error.untraced.stacktrace = "" := by
  cases error <;> rfl

@[simp] theorem isIo_untraced (error : ConnectorError) : error.untraced.isIo = error.isIo := by
  cases error <;> rfl

/-- The stack trace of the error, if it has one, is among those that may show. -/
def Shows (shows : String → Prop) (error : ConnectorError) : Prop :=
  error.stacktrace ≠ "" → shows error.stacktrace

end ConnectorError

namespace Call

/-- The reply without stack traces. -/
def untraced : (call : Call) → call.Reply → call.Reply
  | connect .., reply => reply.mapError (·.untraced)
  | names .., reply => reply.mapError (·.untraced)
  | describe .., reply => reply.mapError (·.untraced)
  | read .., reply => reply.mapError (·.untraced)
  | readMany .., reply => reply.mapError (·.untraced)
  | close .., reply => reply.mapError (·.untraced)

/-- A refusal carries no stack trace but one of those that may show. -/
def RefusalShows {α : Type} (shows : String → Prop) (reply : Except ConnectorError α) : Prop :=
  ∀ error, reply = .error error → error.isIo = false → error.Shows shows

/-- What is said of the stack trace of a reply: it may show, if the reply is a refusal of a kind that
is reported with its trace. -/
def Shows (shows : String → Prop) : (call : Call) → call.Reply → Prop
  | names .., reply => RefusalShows shows reply
  | describe .., reply => RefusalShows shows reply
  | read .., reply => RefusalShows shows reply
  | connect .., _ | readMany .., _ | close .., _ => True

/-- The second reply is the first without its stack trace. -/
inductive Alike (shows : String → Prop) : (call call' : Call) → call.Reply → call'.Reply → Prop where
  | untraced (call : Call) {reply : call.Reply} (h : call.Shows shows reply) :
    Alike shows call call reply (call.untraced reply)

theorem Alike.same {shows : String → Prop} {call : Call} {reply reply' : call.Reply}
    (h : Alike shows call call reply reply') :
    reply' = call.untraced reply ∧ call.Shows shows reply := by
  cases h with
  | untraced h => exact ⟨rfl, h⟩

end Call

/-- The connector without the stack traces of its errors. -/
def Connector.untraced {κ : Type} (connector : Connector κ) : Connector κ := fun call => do
  return (← connector call).map call.untraced

/-! ### Results that are alike -/

/-- The failures tell the same but for the stack trace, which the second does not have.  Messages of a
connection may differ unless it is quiet. -/
def Failure.Alike (shows : String → Prop) (isQuiet : Prop) : Failure → Failure → Prop
  | .connection message, .connection message' => isQuiet → message = message'
  | .operation message cause stacktrace, .operation message' cause' stacktrace' =>
    message = message' ∧ cause = cause' ∧ stacktrace' = "" ∧ (stacktrace ≠ "" → shows stacktrace)
  | _, _ => False

/-- The entries are the same but for the stack trace in the status. -/
inductive Entry.Alike (shows : String → Prop) : Entry → Entry → Prop where
  | same (entry : Entry) : Alike shows entry entry
  | failed (name complaint message cause : String) {stacktrace : String} (h : shows stacktrace) :
    Alike shows (.failed name (Session.statusText complaint (.operation message cause stacktrace)))
      (.failed name (Session.statusText complaint (.operation message cause "")))

/-- The results are both values, or both failures that are alike. -/
def Failure.ResultsAlike {α : Type} (shows : String → Prop) (isQuiet : Prop)
    (values : α → α → Prop) : Except Failure α → Except Failure α → Prop
  | .ok value, .ok value' => values value value'
  | .error failure, .error failure' => failure.Alike shows isQuiet failure'
  | _, _ => False

theorem Failure.ResultsAlike.map {α β : Type} {shows : String → Prop} {isQuiet : Prop}
    {values : α → α → Prop} {values' : β → β → Prop} {change change' : α → β}
    {result result' : Except Failure α} (h : ResultsAlike shows isQuiet values result result')
    (hChange : ∀ value value', values value value' → values' (change value) (change' value')) :
    ResultsAlike shows isQuiet values' (result.map change) (result'.map change') := by
  rcases result with failure | value <;> rcases result' with failure' | value'
  · exact h
  · exact h
  · exact h
  · exact hChange _ _ h

/-- Attributes were collected alike. -/
structure Session.Collected.Alike (shows : String → Prop) (isQuiet : Prop)
    (collected collected' : Collected) : Prop where
  entries : List.Forall₂ (Entry.Alike shows) collected.entries collected'.entries
  failure : Option.Rel (Failure.Alike shows isQuiet) collected.failure collected'.failure

theorem Entry.alike_refl (shows : String → Prop) (entries : List Entry) :
    List.Forall₂ (Entry.Alike shows) entries entries :=
  List.forall₂_same.mpr fun entry _ => .same entry

section Fault

variable {shows : String → Prop} {isQuiet : Prop}

theorem Fault.alike_unreachable (shows : String → Prop) (target : String) {verbose : Bool}
    (error : ConnectorError)
    (h : isQuiet → verbose = false) :
    (Fault.unreachable target verbose error).failure.Alike shows isQuiet
      (Fault.unreachable target verbose error.untraced).failure := by
  intro hQuiet
  simp [traceText, h hQuiet]

theorem Fault.alike_lost (shows : String → Prop) (activity : Activity) (error : ConnectorError) :
    (Fault.lost activity error).failure.Alike shows isQuiet
      (Fault.lost activity error.untraced).failure := by
  intro _
  simp

theorem Fault.alike_refusal (message : String) {error : ConnectorError} (h : error.Shows shows) :
    (Fault.refusal message error).Alike shows isQuiet (Fault.refusal message error.untraced) :=
  ⟨rfl, error.message_untraced.symm, error.stacktrace_untraced, h⟩

end Fault

/-! ### The connection -/

/-- The settings do not ask for stack traces. -/
def Config.IsQuiet (config : Option Config) : Prop := ∀ known ∈ config, known.verbose = false

/-- The same connection with these settings, while what is answered differs in the stack traces only. -/
abbrev Connection.tracing (shows : String → Prop) (config : Option Config) :
    Kinship Connection Call.Reply where
  states connection connection' := connection = connection' ∧ connection.config = config
  questions := Eq
  answers := Call.Alike shows

/-- The same session with such a connection. -/
abbrev Session.tracing (shows : String → Prop) (config : Option Config) :
    Kinship Session Call.Reply where
  states session session' := session = session' ∧ session.connection.config = config
  questions := Eq
  answers := Call.Alike shows

namespace Connection

variable {shows : String → Prop} {config : Option Config}

theorem alike_release : release.InStep (tracing shows config) Eq release := by
  rintro ⟨settings, session⟩ _ ⟨rfl, hConfig⟩
  cases session with
  | none => exact .done ⟨rfl, hConfig⟩ rfl
  | some session =>
    refine .ask ⟨rfl, hConfig⟩ rfl ?_
    rintro reply reply' later _ - ⟨rfl, hLater⟩
    exact .done ⟨rfl, hLater⟩ rfl

theorem alike_openWith {known : Config} (hKnown : config = some known) :
    (openWith known).InStep (tracing shows config)
      (Failure.ResultsAlike shows (Config.IsQuiet config) Eq) (openWith known) := by
  refine alike_release.bind fun released released' _ => (Action.InStep.ask rfl).bind ?_
  intro reply reply' hReply
  obtain ⟨rfl, -⟩ := hReply.same
  cases reply with
  | ok session =>
    refine (Action.InStep.modify ?_).bind fun _ _ _ => .pure rfl
    rintro connection _ ⟨rfl, hConfig⟩
    exact ⟨rfl, hConfig⟩
  | error error =>
    exact .pure (Fault.alike_unreachable shows _ error fun hQuiet => hQuiet known hKnown)

theorem alike_ensure : ensure.InStep (tracing shows config)
    (Failure.ResultsAlike shows (Config.IsQuiet config) Eq) ensure := by
  rintro ⟨settings, session⟩ _ ⟨rfl, hConfig⟩
  obtain rfl : settings = config := hConfig
  cases session with
  | some session => exact .done ⟨rfl, rfl⟩ rfl
  | none =>
    cases settings with
    | none => exact .done ⟨rfl, rfl⟩ fun _ => rfl
    | some known =>
      refine (alike_openWith rfl ⟨some known, none⟩ _ ⟨rfl, rfl⟩).bind ?_
      rintro (failure | value) (failure' | value') after _ hAlike ⟨rfl, hAfter⟩
      · exact .done ⟨rfl, hAfter⟩ hAlike
      · exact hAlike.elim
      · exact hAlike.elim
      · -- The session just opened is the same in both.
        show Dialogue.InStep _ _ ((Action.get >>= _ : Act (Except Failure SessionHandle)) after)
          ((Action.get >>= _ : Act (Except Failure SessionHandle)) after)
        rw [Action.get_bind_apply]
        cases hSession : after.session with
        | some session => exact .done ⟨rfl, hAfter⟩ rfl
        | none => exact .done ⟨rfl, hAfter⟩ fun _ => rfl

theorem alike_disconnect : disconnect.InStep (tracing shows config)
    (Failure.ResultsAlike shows (Config.IsQuiet config) Eq) disconnect := by
  refine alike_release.bind ?_
  rintro (_ | _) _ rfl
  · exact .pure fun _ => rfl
  · exact .pure rfl

end Connection

/-! ### Operations in a session -/

namespace Session

variable {shows : String → Prop} {config : Option Config} {α β : Type}

theorem alike_ask (call : Call) :
    (Action.ask call : Act call.Reply).InStep (tracing shows config)
      (fun reply reply' => reply' = call.untraced reply ∧ call.Shows shows reply)
      (Action.ask call) :=
  (Action.InStep.ask rfl).mono fun _ _ hReply => hReply.same

theorem alike_onConnection {act act' : Connection.Act α} {ending : α → α → Prop}
    (h : act.InStep (Connection.tracing shows config) ending act') :
    (onConnection act).InStep (tracing shows config) ending (onConnection act') := by
  refine h.focus ?_ ?_
  · rintro session _ ⟨rfl, hConfig⟩
    exact ⟨rfl, hConfig⟩
  · rintro connection _ session _ ⟨rfl, hConfig⟩ ⟨rfl, -⟩
    exact ⟨rfl, hConfig⟩

theorem alike_onStats (change : Stats → Stats) :
    (onStats change).InStep (tracing shows config) Eq (onStats change) := by
  refine Action.InStep.modify ?_
  rintro session _ ⟨rfl, hConfig⟩
  exact ⟨rfl, hConfig⟩

/-- Records tell nothing of stack traces. -/
theorem alike_recorded {act act' : Act α} {ending : α → α → Prop} {count : α → Option Nat}
    (h : act.InStep (tracing shows config) ending act')
    (hCount : ∀ value value', ending value value' → count value = count value')
    (kind bean : String) (attributes : List String) :
    (recorded kind bean attributes count act).InStep (tracing shows config) ending
      (recorded kind bean attributes count act') := by
  have hBegin : (beginRecord kind bean attributes).InStep (tracing shows config) Eq
      (beginRecord kind bean attributes) := by
    rintro session _ ⟨rfl, hConfig⟩
    exact .done ⟨rfl, hConfig⟩ rfl
  refine hBegin.bind fun handle _ hHandle => ?_
  subst hHandle
  refine h.bind fun value value' hValues => ?_
  rw [hCount value value' hValues]
  exact (alike_onStats _).bind fun _ _ _ => .pure hValues

/-- What a call may come to: the same value, or refusals of which `P` holds and which differ in their
stack traces. -/
def Answered (P : ConnectorError → Prop) (reply reply' : Except ConnectorError α) : Prop :=
  reply' = reply.mapError (·.untraced) ∧ ∀ error, reply = .error error → P error

theorem alike_attempt {request : SessionHandle → Act (Except ConnectorError α)}
    {P : ConnectorError → Prop}
    (h : ∀ session, (request session).InStep (tracing shows config) (Answered P) (request session)) :
    (attempt request).InStep (tracing shows config)
      (Failure.ResultsAlike shows (Config.IsQuiet config) (Answered P)) (attempt request) := by
  refine (alike_onConnection Connection.alike_ensure).bind ?_
  rintro (failure | session) (failure' | session') hSession
  · exact .pure hSession
  · exact hSession.elim
  · exact hSession.elim
  · obtain rfl : session = session' := hSession
    exact (h session).map fun _ _ hReply => hReply

/-- Where the line is broken the session is given up by both, and the message has no stack trace. -/
theorem alike_givingUp {P : ConnectorError → Prop} (activity : Activity)
    {result result' : Except Failure (Except ConnectorError α)}
    (h : Failure.ResultsAlike shows (Config.IsQuiet config)
      (Answered fun error => error.isIo = false → P error) result result') :
    (givingUp activity result).InStep (tracing shows config)
      (Failure.ResultsAlike shows (Config.IsQuiet config) (Answered P))
      (givingUp activity result') := by
  rcases result with failure | reply <;> rcases result' with failure' | reply'
  · exact .pure h
  · exact h.elim
  · exact h.elim
  · obtain ⟨rfl, hError⟩ := h
    cases reply with
    | ok value => exact .pure ⟨rfl, nofun⟩
    | error error =>
      show Action.InStep _ _ (if error.isIo then _ else _) (if error.untraced.isIo then _ else _)
      rw [error.isIo_untraced]
      cases hIo : error.isIo with
      | true =>
        refine (alike_onConnection Connection.alike_release).bind fun _ _ _ => .pure ?_
        exact Fault.alike_lost shows activity error
      | false =>
        refine .pure ⟨rfl, ?_⟩
        rintro _ ⟨⟩
        exact hError error rfl hIo

theorem alike_call {request : SessionHandle → Act (Except ConnectorError α)}
    {P : ConnectorError → Prop} (activity : Activity)
    (h : ∀ session, (request session).InStep (tracing shows config)
      (Answered fun error => error.isIo = false → P error) (request session)) :
    (call activity request).InStep (tracing shows config)
      (Failure.ResultsAlike shows (Config.IsQuiet config) (Answered P)) (call activity request) :=
  (alike_attempt h).bind fun _ _ => alike_givingUp activity

/-- What a refusal is taken for differs in the stack trace only. -/
theorem alike_settled {refused : ConnectorError → Fault} {message : String}
    (hRefused : ∀ error, (refused error).failure = Fault.refusal message error)
    {result result' : Except Failure (Except ConnectorError α)}
    (h : Failure.ResultsAlike shows (Config.IsQuiet config) (Answered (·.Shows shows)) result
      result') :
    Failure.ResultsAlike shows (Config.IsQuiet config) Eq (settled refused result)
      (settled refused result') := by
  rcases result with failure | reply <;> rcases result' with failure' | reply'
  · exact h
  · exact h.elim
  · exact h.elim
  · obtain ⟨rfl, hShows⟩ := h
    cases reply with
    | ok value => exact rfl
    | error error =>
      show Failure.Alike _ _ (refused error).failure (refused error.untraced).failure
      rw [hRefused, hRefused]
      exact Fault.alike_refusal message (hShows error rfl)

/-- A call that is settled as soon as it is answered. -/
theorem alike_settledCall {request : SessionHandle → Act (Except ConnectorError α)}
    {refused : ConnectorError → Fault} {message : String} (activity : Activity)
    (hRefused : ∀ error, (refused error).failure = Fault.refusal message error)
    (h : ∀ session, (request session).InStep (tracing shows config)
      (Answered fun error => error.isIo = false → error.Shows shows) (request session)) :
    (do return settled refused (← call activity request) : Act (Except Failure α)).InStep
      (tracing shows config) (Failure.ResultsAlike shows (Config.IsQuiet config) Eq)
      (do return settled refused (← call activity request)) :=
  (alike_call activity h).map fun _ _ => alike_settled hRefused

theorem count_alike {size : α → Nat} {result result' : Except Failure α}
    (h : Failure.ResultsAlike shows (Config.IsQuiet config) Eq result result') :
    countOk size result = countOk size result' := by
  rcases result with failure | value <;> rcases result' with failure' | value'
  · rfl
  · exact h.elim
  · exact h.elim
  · obtain rfl : value = value' := h
    rfl

/-- What is made of values that are the same is the same. -/
theorem map_alike {result result' : Except Failure α} (change : α → β)
    (h : Failure.ResultsAlike shows (Config.IsQuiet config) Eq result result') :
    Failure.ResultsAlike shows (Config.IsQuiet config) Eq (result.map change)
      (result'.map change) :=
  h.map fun _ _ => congrArg change

theorem alike_beans (pattern : BeanName) : (beans pattern).InStep (tracing shows config)
    (Failure.ResultsAlike shows (Config.IsQuiet config) Eq) (beans pattern) :=
  alike_recorded (alike_settledCall .queryingBeans (fun _ => rfl) fun session =>
    alike_ask (Call.names session pattern)) (fun _ _ => count_alike) _ _ _

theorem alike_attributeNames (bean : BeanName) :
    (attributeNames bean).InStep (tracing shows config)
      (Failure.ResultsAlike shows (Config.IsQuiet config) Eq) (attributeNames bean) :=
  (alike_recorded (alike_settledCall .describingBean (fun _ => rfl) fun session =>
    alike_ask (Call.describe session bean)) (fun _ _ => count_alike) _ _ _).map
      fun _ _ => map_alike _

theorem alike_fetch (bean : BeanName) (name : String) :
    (fetch bean name).InStep (tracing shows config)
      (Failure.ResultsAlike shows (Config.IsQuiet config) Eq) (fetch bean name) := by
  refine (alike_call .readingAttribute fun session =>
    alike_ask (Call.read session bean name)).map fun result result' hResult => ?_
  have hSettled : Failure.ResultsAlike shows (Config.IsQuiet config) Eq
      (settled (.attributeRefused name bean) result)
      (settled (.attributeRefused name bean) result') := alike_settled (fun _ => rfl) hResult
  revert hSettled
  generalize settled (.attributeRefused name bean) result = left
  generalize settled (.attributeRefused name bean) result' = right
  intro hSettled
  rcases left with failure | value <;> rcases right with failure' | value'
  · exact hSettled
  · exact hSettled.elim
  · exact hSettled.elim
  · obtain rfl : value = value' := hSettled
    show Failure.ResultsAlike shows (Config.IsQuiet config) Eq
      ((value.flatten (qualifiedName bean name)).mapError _)
      ((value.flatten (qualifiedName bean name)).mapError _)
    cases value.flatten (qualifiedName bean name) with
    | ok entries => exact rfl
    | error reason => exact ⟨rfl, rfl, rfl, fun hSome => absurd rfl hSome⟩

theorem alike_read (bean : BeanName) (name : String) :
    (read bean name).InStep (tracing shows config)
      (Failure.ResultsAlike shows (Config.IsQuiet config) Eq) (read bean name) :=
  alike_recorded (alike_fetch bean name) (fun _ _ => count_alike) _ _ _

/-- The entry that reports a failure holds no more of the stack trace than the failure. -/
theorem alike_failed {message cause stacktrace : String}
    (h : stacktrace ≠ "" → shows stacktrace) (name complaint : String) :
    Entry.Alike shows
      (.failed name (statusText complaint (.operation message cause stacktrace)))
      (.failed name (statusText complaint (.operation message cause ""))) := by
  by_cases hNone : stacktrace = ""
  · subst hNone
    exact .same _
  · exact .failed name complaint message cause (h hNone)

theorem alike_fetchEach (bean : BeanName) (names : List String) :
    (fetchEach bean names).InStep (tracing shows config)
      (Collected.Alike shows (Config.IsQuiet config)) (fetchEach bean names) := by
  induction names with
  | nil => exact .pure ⟨.nil, .none⟩
  | cons name names ih =>
    refine (alike_fetch bean name).bind ?_
    rintro (failure | entries) (failure' | entries') hResult
    · rcases failure with message | ⟨message, cause, stacktrace⟩ <;>
        rcases failure' with message' | ⟨message', cause', stacktrace'⟩
      · exact .pure ⟨.nil, .some hResult⟩
      · exact hResult.elim
      · exact hResult.elim
      · obtain ⟨rfl, rfl, rfl, hShows⟩ := hResult
        refine ih.map fun rest rest' hRest => ⟨?_, hRest.failure⟩
        exact .cons (alike_failed hShows _ _) hRest.entries
    · exact hResult.elim
    · exact hResult.elim
    · obtain rfl : entries = entries' := hResult
      refine ih.map fun rest rest' hRest => ⟨?_, hRest.failure⟩
      exact List.rel_append (Entry.alike_refl shows entries) hRest.entries

theorem count_batch_alike {P : ConnectorError → Prop}
    {result result' : Except Failure (Except ConnectorError (List (String × Value)))}
    (h : Failure.ResultsAlike shows (Config.IsQuiet config) (Answered P) result result') :
    countBatch result = countBatch result' := by
  rcases result with failure | reply <;> rcases result' with failure' | reply'
  · rfl
  · exact h.elim
  · exact h.elim
  · obtain ⟨rfl, -⟩ := h
    cases reply <;> rfl

theorem alike_readNamed (bean : BeanName) (names : List String) :
    (readNamed bean names).InStep (tracing shows config)
      (Collected.Alike shows (Config.IsQuiet config)) (readNamed bean names) := by
  -- Whatever a batch is refused for, the attributes are then read one by one.
  have hRequest (session : SessionHandle) :
      (Action.ask (Call.readMany session bean names) : Act _).InStep (tracing shows config)
        (Answered fun error => error.isIo = false → True)
        (Action.ask (Call.readMany session bean names)) := by
    refine (alike_ask (Call.readMany session bean names)).mono ?_
    rintro reply _ ⟨rfl, -⟩
    exact ⟨rfl, fun _ _ _ => trivial⟩
  refine (alike_recorded (alike_attempt hRequest) (fun _ _ => count_batch_alike)
    "getAttributes" bean.text names).bind fun _ _ hTried =>
      (alike_givingUp .readingAttributes hTried).bind ?_
  rintro (failure | reply) (failure' | reply') hResult
  · exact .pure ⟨.nil, .some hResult⟩
  · exact hResult.elim
  · exact hResult.elim
  · obtain ⟨rfl, -⟩ := hResult
    cases reply with
    | ok values => exact .pure ⟨Entry.alike_refl shows _, .none⟩
    | error error => exact alike_fetchEach bean names

theorem alike_readMany (bean : BeanName) (names : List String) :
    (readMany bean names).InStep (tracing shows config)
      (Collected.Alike shows (Config.IsQuiet config)) (readMany bean names) := by
  rw [readMany]
  split
  · refine (alike_attributeNames bean).bind ?_
    rintro (failure | names) (failure' | names') hResult
    · exact .pure ⟨.nil, .some hResult⟩
    · exact hResult.elim
    · exact hResult.elim
    · obtain rfl : names = names' := hResult
      exact alike_readNamed bean names
  · exact alike_readNamed bean names

theorem alike_readEach (names : List String) (beans : List BeanName) :
    (readEach names beans).InStep (tracing shows config)
      (Failure.ResultsAlike shows (Config.IsQuiet config) (List.Forall₂ (Entry.Alike shows)))
      (readEach names beans) := by
  induction beans with
  | nil => exact .pure (.nil : List.Forall₂ (Entry.Alike shows) [] [])
  | cons bean beans ih =>
    refine (alike_readMany bean names).bind ?_
    rintro ⟨entries, failure⟩ ⟨entries', failure'⟩ ⟨hEntries, hFailure⟩
    cases hFailure with
    | some hFailure => exact .pure hFailure
    | none =>
      exact ih.map fun rest rest' hRest =>
        hRest.map fun _ _ hBehind => List.rel_append hEntries hBehind

theorem alike_queryMany (pattern : BeanName) (names : List String) :
    (queryMany pattern names).InStep (tracing shows config)
      (Failure.ResultsAlike shows (Config.IsQuiet config) (List.Forall₂ (Entry.Alike shows)))
      (queryMany pattern names) := by
  rw [queryMany]
  split
  · refine (alike_beans pattern).bind ?_
    rintro (failure | beans) (failure' | beans') hResult
    · exact .pure hResult
    · exact hResult.elim
    · exact hResult.elim
    · obtain rfl : beans = beans' := hResult
      exact alike_readEach names beans
  · exact alike_readEach names [pattern]

theorem alike_disconnect : disconnect.InStep (tracing shows config)
    (Failure.ResultsAlike shows (Config.IsQuiet config) Eq) disconnect :=
  alike_recorded (alike_onConnection Connection.alike_disconnect) (fun _ _ => count_alike) _ _ _

/-- The session with other settings. -/
def withSettings (session : Session) (config : Option Config) : Session :=
  { session with connection.config := config }

/-- Connecting does not look at the settings before. -/
theorem connect_withSettings (known : Config) (session : Session) :
    connect known (session.withSettings (some known)) = connect known session := by
  obtain ⟨⟨settings, open?⟩, stats⟩ := session
  cases open? <;> rfl

/-- Connecting, once the settings are those to connect with. -/
theorem alike_connect (known : Config) :
    (connect known).InStep (tracing shows (some known))
      (Failure.ResultsAlike shows (Config.IsQuiet (some known)) Eq) (connect known) := by
  have hConnect : (Connection.connect known).InStep (Connection.tracing shows (some known))
      (Failure.ResultsAlike shows (Config.IsQuiet (some known)) Eq) (Connection.connect known) := by
    refine (Action.InStep.modify ?_).bind fun _ _ _ => Connection.alike_openWith rfl
    rintro connection _ ⟨rfl, -⟩
    exact ⟨rfl, rfl⟩
  exact (alike_onStats _).bind fun _ _ _ =>
    alike_recorded (alike_onConnection hConnect) (fun _ _ => count_alike) _ _ _

end Session

/-! ### Operations as data -/

/-- The settings after the operation, whatever comes of it. -/
def Operation.settings (operation : Operation) (before : Option Config) : Option Config :=
  match operation with
  | .connect config => some config
  | _ => before

/-- The responses are the same, or attributes whose entries are alike, or failures that are. -/
inductive Response.Alike (shows : String → Prop) (isQuiet : Prop) : Response → Response → Prop where
  | plain {response : Response} (h : response.kind ≠ "error") :
    Alike shows isQuiet response response
  | attributes {entries entries' : List Entry} (h : List.Forall₂ (Entry.Alike shows) entries entries') :
    Alike shows isQuiet (.attributes entries) (.attributes entries')
  | error {failure failure' : Failure} (h : failure.Alike shows isQuiet failure') :
    Alike shows isQuiet (.error failure.replyError) (.error failure'.replyError)

namespace Response.Alike

variable {shows : String → Prop} {isQuiet : Prop} {response response' : Response}

/-- Of quiet connections the messages are the same. -/
theorem quiet (h : Response.Alike shows isQuiet response response') (hQuiet : isQuiet) :
    Response.Alike shows True response response' := by
  cases h with
  | plain h => exact .plain h
  | attributes h => exact .attributes h
  | @error failure failure' h =>
    rcases failure with message | ⟨message, cause, stacktrace⟩ <;>
      rcases failure' with message' | ⟨message', cause', stacktrace'⟩
    · obtain rfl : message = message' := h hQuiet
      exact .error fun _ => rfl
    · exact h.elim
    · exact h.elim
    · exact .error h

/-- When no stack trace may show, the responses are the same. -/
theorem eq_of_none (h : Response.Alike shows True response response')
    (hNone : ∀ stacktrace, ¬shows stacktrace) : response = response' := by
  cases h with
  | plain h => rfl
  | attributes h =>
    congr 1
    induction h with
    | nil => rfl
    | cons hEntry _ ih =>
      cases hEntry with
      | same entry => rw [ih]
      | failed name complaint message cause hShows => exact absurd hShows (hNone _)
  | @error failure failure' h =>
    rcases failure with message | ⟨message, cause, stacktrace⟩ <;>
      rcases failure' with message' | ⟨message', cause', stacktrace'⟩
    · obtain rfl : message = message' := h trivial
      rfl
    · exact h.elim
    · exact h.elim
    · obtain ⟨rfl, rfl, rfl, hShows⟩ := h
      have hEmpty : stacktrace = "" := by
        by_contra hSome
        exact hNone stacktrace (hShows hSome)
      rw [hEmpty]

/-- The failure of an operation has a stack trace only if it may show. -/
theorem shows_of_jmx {message cause stacktrace : String}
    (h : Response.Alike shows isQuiet (.error (.jmx message cause stacktrace)) response')
    (hSome : stacktrace ≠ "") : shows stacktrace := by
  generalize hResponse : Response.error (.jmx message cause stacktrace) = response at h
  cases h with
  | plain h =>
    subst hResponse
    exact absurd rfl h
  | attributes h => cases hResponse
  | @error failure failure' h =>
    rcases failure with message | ⟨message, cause, stacktrace⟩
    · cases hResponse
    · cases hResponse
      rcases failure' with message' | ⟨message', cause', stacktrace'⟩
      · exact h.elim
      · exact h.2.2.2 hSome

end Response.Alike

/-- The results of operations are alike. -/
abbrev Response.ResultsAlike (shows : String → Prop) (config : Option Config) :
    Except Failure Response → Except Failure Response → Prop :=
  Failure.ResultsAlike shows (Config.IsQuiet config) (Response.Alike shows (Config.IsQuiet config))

theorem Operation.alike_act (shows : String → Prop) (operation : Operation)
    {config : Option Config} (h : operation.settings config = config) :
    operation.act.InStep (Session.tracing shows config) (Response.ResultsAlike shows config)
      operation.act := by
  have hSame {α : Type} {act : Session.Act (Except Failure α)} {make : α → Response}
      (hAct : act.InStep (Session.tracing shows config)
        (Failure.ResultsAlike shows (Config.IsQuiet config) Eq) act)
      (hMake : ∀ value, (make value).kind ≠ "error") :
      (do return (← act).map make : Session.Act (Except Failure Response)).InStep
        (Session.tracing shows config) (Response.ResultsAlike shows config)
        (do return (← act).map make) :=
    hAct.map fun result result' hResult => hResult.map fun value _ hValue =>
      hValue ▸ .plain (hMake value)
  cases operation with
  | connect known =>
    obtain rfl : some known = config := h
    exact hSame (Session.alike_connect known) (by simp [Response.kind])
  | disconnect => exact hSame Session.alike_disconnect (by simp [Response.kind])
  | beanNames pattern =>
    exact hSame ((Session.alike_beans pattern).map fun _ _ => Session.map_alike _)
      (by simp [Response.kind])
  | attributeNames bean => exact hSame (Session.alike_attributeNames bean) (by simp [Response.kind])
  | read bean name => exact hSame (Session.alike_read bean name) (by simp [Response.kind])
  | readMany bean names =>
    refine (Session.alike_readMany bean names).map ?_
    rintro ⟨entries, failure⟩ ⟨entries', failure'⟩ ⟨hEntries, hFailure⟩
    cases hFailure with
    | some hFailure => exact hFailure
    | none => exact .attributes hEntries
  | queryMany pattern names =>
    exact (Session.alike_queryMany pattern names).map fun _ _ hResult =>
      hResult.map fun _ _ => .attributes

theorem Operation.act_withSettings (operation : Operation) (session : Session) :
    operation.act (session.withSettings (operation.settings session.connection.config)) =
      operation.act session := by
  cases operation with
  | connect known =>
    show (Session.connect known (session.withSettings (some known))).bind _ = _
    rw [Session.connect_withSettings]
    rfl
  | _ => rfl

/-- An operation is in step with itself with the settings that it leaves in force. -/
theorem Operation.alike_course (shows : String → Prop) (operation : Operation) (session : Session) :
    (operation.act session).InStep
      (Session.tracing shows (operation.settings session.connection.config))
      (Response.ResultsAlike shows (operation.settings session.connection.config))
      (operation.act session) := by
  have hSettled : operation.settings (operation.settings session.connection.config) =
      operation.settings session.connection.config := by
    cases operation <;> rfl
  rw [← operation.act_withSettings session]
  exact operation.alike_act shows hSettled _ _ ⟨rfl, rfl⟩

end BeanBridge
