import BeanBridge.Session.Basic

/-! What can be done in a session.  A call that finds the session broken gives it up before the
failure is reported, so the next operation opens a new one. -/

namespace BeanBridge.Session

variable {α : Type}

/-- How many values a result holds, if it is one. -/
def countOk {ε : Type} (size : α → Nat) : Except ε α → Option Nat
  | .ok value => some (size value)
  | .error _ => none

/-- Opens a session with the settings given; calls are recorded anew, as the settings say. -/
def connect (config : Config) : Act (Except Failure Unit) := do
  onStats (·.configure config.recordsStats config.statsCapacity)
  recorded "connect" "" [] (countOk fun _ => 0) (onConnection (Connection.connect config))

/-- Closes the session. -/
def disconnect : Act (Except Failure Unit) :=
  recorded "disconnect" "" [] (countOk fun _ => 0) (onConnection Connection.disconnect)

/-- Calls over the open session, one being opened if there is none. -/
def attempt (request : SessionHandle → Act (Except ConnectorError α)) :
    Act (Except Failure (Except ConnectorError α)) := do
  match ← onConnection Connection.ensure with
  | .error failure => return .error failure
  | .ok session => return .ok (← request session)

/-- Gives up a session that was found broken.  What the endpoint refuses is left to the caller. -/
def givingUp (activity : Activity) : Except Failure (Except ConnectorError α) →
    Act (Except Failure (Except ConnectorError α))
  | .ok (.error error) => do
    if error.isIo then
      let _ ← onConnection Connection.release
      return .error (Fault.lost activity error).failure
    else return .ok (.error error)
  | result => return result

/-- A call whose session is given up as soon as it is found broken. -/
def call (activity : Activity) (request : SessionHandle → Act (Except ConnectorError α)) :
    Act (Except Failure (Except ConnectorError α)) := do
  givingUp activity (← attempt request)

/-- The result of a call, `refused` telling what a refusal means. -/
def settled (refused : ConnectorError → Fault) :
    Except Failure (Except ConnectorError α) → Except Failure α
  | .error failure => .error failure
  | .ok (.error error) => .error (refused error).failure
  | .ok (.ok value) => .ok value

/-- The beans that a pattern selects. -/
def beans (pattern : BeanName) : Act (Except Failure (List BeanName)) :=
  recorded "queryMBeans" pattern.text [] (countOk List.length) do
    let result ← call .queryingBeans fun session => Action.ask (Call.names session pattern)
    return settled (.queryRefused pattern) result

/-- The names of the beans that a pattern selects. -/
def beanNames (pattern : BeanName) : Act (Except Failure (List String)) := do
  return (← beans pattern).map fun names => names.map (·.text)

/-- The names of the attributes of a bean that can be read. -/
def attributeNames (bean : BeanName) : Act (Except Failure (List String)) := do
  let info ← recorded "getMBeanInfo" bean.text [] (countOk fun info => info.attributes.length) do
    let result ← call .describingBean fun session => Action.ask (Call.describe session bean)
    return settled (.beanRefused bean) result
  return info.map fun info => (info.attributes.filter (·.isReadable)).map (·.name)

/-- The name of an attribute of a bean in entries. -/
def qualifiedName (bean : BeanName) (name : String) : String := bean.text ++ ",attr=" ++ name

/-- The entries of an attribute, read by itself. -/
def fetch (bean : BeanName) (name : String) : Act (Except Failure (List Entry)) := do
  let result ← call .readingAttribute fun session => Action.ask (Call.read session bean name)
  return match settled (.attributeRefused name bean) result with
    | .error failure => .error failure
    | .ok value =>
      (value.flatten (qualifiedName bean name)).mapError fun reason =>
        (Fault.unusable reason).failure

/-- The entries of one attribute of a bean. -/
def read (bean : BeanName) (name : String) : Act (Except Failure (List Entry)) :=
  recorded "getAttribute" bean.text [name] (countOk List.length) (fetch bean name)

/-- A failure in the status of an entry. -/
def statusText (complaint : String) : Failure → String
  | .connection message => complaint ++ ", error: '" ++ message ++ "'"
  | .operation message cause stacktrace =>
    complaint ++ ", error: '" ++ message ++ "', cause: '" ++ cause ++ "', stacktrace: '" ++
      stacktrace ++ "'"

/-- The entries of one value that was read together with others: a value that gives none is
reported by an entry. -/
def entriesOf (bean : BeanName) (name : String) (value : Value) : List Entry :=
  match value.flatten (qualifiedName bean name) with
  | .ok entries => entries
  | .error reason =>
    [.failed (qualifiedName bean name)
      (statusText "can't parse attribute" (Fault.unusable reason).failure)]

/-- The names asked for that the values leave out, each as often as it was asked for in vain. -/
def missing (names : List String) (values : List (String × Value)) : List String :=
  values.foldl (fun names (name, _) => names.erase name) names

/-- The entry of an attribute that the endpoint did not return. -/
def missingEntry (bean : BeanName) (name : String) : Entry :=
  .failed (qualifiedName bean name) "failed to retrieve attribute value from server"

/-- The entries of values that were read together. -/
def batchEntries (bean : BeanName) (names : List String) (values : List (String × Value)) :
    List Entry :=
  values.flatMap (fun (name, value) => entriesOf bean name value) ++
    (missing names values).map (missingEntry bean)

/-- Entries, and what ended their collection early. -/
structure Collected where
  entries : List Entry
  failure : Option Failure
  deriving DecidableEq

/-- The entries of attributes, each read by itself.  A failed read is reported by an entry, unless
the session is lost. -/
def fetchEach (bean : BeanName) : List String → Act Collected
  | [] => return ⟨[], none⟩
  | name :: names => do
    match ← fetch bean name with
    | .ok entries =>
      let rest ← fetchEach bean names
      return { rest with entries := entries ++ rest.entries }
    | .error (.connection message) => return ⟨[], some (.connection message)⟩
    | .error failure =>
      let entry := Entry.failed (qualifiedName bean name)
        (statusText "can't get attribute" failure)
      let rest ← fetchEach bean names
      return { rest with entries := entry :: rest.entries }

/-- How many values were read together, if they were read. -/
def countBatch : Except Failure (Except ConnectorError (List (String × Value))) → Option Nat
  | .ok (.ok values) => some values.length
  | _ => none

/-- The entries of attributes that are known by name, read together if the endpoint allows it.  Here
the record ends before a broken session is given up. -/
def readNamed (bean : BeanName) (names : List String) : Act Collected := do
  let result ← recorded "getAttributes" bean.text names countBatch
    (attempt fun session => Action.ask (Call.readMany session bean names))
  match ← givingUp .readingAttributes result with
  | .error failure => return ⟨[], some failure⟩
  | .ok (.ok values) => return ⟨batchEntries bean names values, none⟩
  | .ok (.error _) => fetchEach bean names

/-- The entries of attributes of a bean, of all that can be read if none is named. -/
def readMany (bean : BeanName) (names : List String) : Act Collected := do
  if names.isEmpty then
    match ← attributeNames bean with
    | .error failure => return ⟨[], some failure⟩
    | .ok names => readNamed bean names
  else readNamed bean names

/-- The entries of attributes of several beans, up to the first that fails. -/
def readEach (names : List String) : List BeanName → Act (Except Failure (List Entry))
  | [] => return .ok []
  | bean :: beans => do
    let collected ← readMany bean names
    match collected.failure with
    | some failure => return .error failure
    | none => return (← readEach names beans).map (collected.entries ++ ·)

/-- The entries of attributes of every bean that a pattern selects.  A name that is no pattern
stands for its bean. -/
def queryMany (pattern : BeanName) (names : List String) : Act (Except Failure (List Entry)) := do
  if pattern.isPattern then
    match ← beans pattern with
    | .error failure => return .error failure
    | .ok beans => readEach names beans
  else readEach names [pattern]

end BeanBridge.Session
