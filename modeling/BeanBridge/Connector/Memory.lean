import BeanBridge.BeanName.Matching
import BeanBridge.BeanName.Parser
import BeanBridge.Connector.Call

/-! An endpoint in memory: a table of beans, with failures, waits and breakdowns on demand. -/

namespace BeanBridge

/-- A bean of the table. -/
structure Memory.Bean where
  name : BeanName
  /-- The attributes, in the order of their names. -/
  attributes : List (String × Value)
  /-- The attributes that cannot be read by themselves and are left out when read with others. -/
  failing : List (String × ConnectorError) := []
  /-- The failure of reads of several attributes. -/
  batchFailure : Option ConnectorError := none

/-- A table of beans, and what was asked of it. -/
structure Memory where
  /-- The beans under their canonical names, in the order of these. -/
  beans : List (String × Memory.Bean) := []
  /-- New sessions are refused with this message. -/
  refusal : Option String := none
  /-- The next call over a session fails in this way. -/
  nextFailure : Option ConnectorError := none
  /-- Every call over a session takes so many milliseconds. -/
  delay : Option Nat := none
  /-- Reading one of these attributes breaks the connector down. -/
  explosive : List String := []
  /-- How many sessions were asked for. -/
  connects : Nat := 0
  /-- The sessions that are open. -/
  live : List SessionHandle := []
  /-- How many sessions are counted as open. -/
  openCount : Nat := 0
  lastTarget : Option String := none
  lastEnvironment : Option Environment := none

namespace Memory

/-- The canonical name that a text stands for, or why there is none. -/
def canonical (text : String) : Except String BeanName :=
  (BeanName.parse text).mapError fun flaw => "bad test bean name: " ++ flaw.message text

/-- Adds a bean, in the place of one of the same canonical name. -/
def addBean (memory : Memory) (text : String) (attributes : List (String × Value)) :
    Except String Memory := do
  let name ← canonical text
  let bean : Bean := { name, attributes := Value.sortFields attributes }
  return { memory with beans := Value.insertField name.canonicalText bean memory.beans }

/-- Changes a bean of the table. -/
def changeBean (memory : Memory) (text : String) (change : Bean → Bean) :
    Except String Memory := do
  let name ← canonical text
  match memory.beans.lookup name.canonicalText with
  | none => throw ("unknown test bean " ++ text)
  | some bean =>
    return { memory with
      beans := Value.insertField name.canonicalText (change bean) memory.beans }

/-- Makes reads of an attribute fail. -/
def failRead (memory : Memory) (text name : String) (error : ConnectorError) :
    Except String Memory :=
  memory.changeBean text fun bean =>
    { bean with failing := Value.insertField name error bean.failing }

/-- Makes reads of several attributes fail. -/
def failBatch (memory : Memory) (text : String) (error : ConnectorError) : Except String Memory :=
  memory.changeBean text ({ · with batchFailure := some error })

/-- The names that a pattern selects, in the order of their canonical texts. -/
def select (memory : Memory) (pattern : BeanName) (library : RegexLibrary) : List BeanName :=
  (memory.beans.map fun (_, bean) => bean.name).filter fun name => pattern.selects name library

def find (memory : Memory) (name : BeanName) : Except ConnectorError Bean :=
  match memory.beans.lookup name.canonicalText with
  | some bean => .ok bean
  | none => .error (.remote "javax.management.InstanceNotFoundException" name.text "")

/-- What is known of a bean of the table. -/
def Bean.info (bean : Bean) : BeanInfo where
  className := "InMemoryBean"
  attributes := bean.attributes.map fun (name, value) => ⟨name, value.kind, true⟩

/-- The value of an attribute read by itself. -/
def Bean.read (bean : Bean) (name : String) : Except ConnectorError Value :=
  match bean.failing.lookup name with
  | some error => .error error
  | none => match bean.attributes.lookup name with
    | some value => .ok value
    | none =>
      .error (.remote "javax.management.AttributeNotFoundException"
        ("No such attribute: " ++ name) "")

/-- The values of attributes read together: those that are there and do not fail. -/
def Bean.readMany (bean : Bean) (names : List String) :
    Except ConnectorError (List (String × Value)) :=
  match bean.batchFailure with
  | some error => .error error
  | none =>
    .ok ((names.filter fun name => (bean.failing.lookup name).isNone).filterMap fun name =>
      (bean.attributes.lookup name).map (name, ·))

/-- Opens a session. -/
def connect (target : String) (environment : Environment) :
    Timed Memory (Except ConnectorError SessionHandle) := do
  Action.modify fun memory =>
    { memory with
      connects := memory.connects + 1
      lastTarget := some target
      lastEnvironment := some environment }
  let memory ← Action.get
  match memory.refusal with
  | some message => return .error (.io message "")
  | none =>
    let session : SessionHandle := ⟨memory.connects⟩
    Action.modify fun memory =>
      { memory with live := session :: memory.live, openCount := memory.openCount + 1 }
    return .ok session

/-- Closes a session that is open. -/
def close (session : SessionHandle) (memory : Memory) : Memory :=
  if session ∈ memory.live then
    { memory with live := memory.live.erase session, openCount := memory.openCount - 1 }
  else memory

/-- What comes before every answer over a session: the failure on demand, or else the wait. -/
def enter (session : SessionHandle) : Timed Memory (Except ConnectorError Unit) := do
  let memory ← Action.get
  if session ∉ memory.live then return .error (.io "session closed" "")
  else match memory.nextFailure with
    | some error =>
      Action.modify ({ · with nextFailure := none })
      return .error error
    | none => match memory.delay with
      | none => return .ok ()
      | some delay =>
        Timed.pause delay
        return .ok ()

/-- The answer over a session, as the table is after the wait. -/
def answered {α : Type} (session : SessionHandle)
    (answer : Memory → Outcome (Except ConnectorError α)) :
    Timed Memory (Outcome (Except ConnectorError α)) := do
  match ← enter session with
  | .error error => return .value (.error error)
  | .ok () => return answer (← Action.get)

/-- Breaks down over the first of the attributes that is set to do so. -/
def unlessExplosive {α : Type} (memory : Memory) (names : List String)
    (answer : Except ConnectorError α) : Outcome (Except ConnectorError α) :=
  match names.find? (· ∈ memory.explosive) with
  | some name => .crash (some ("attribute " ++ name ++ " exploded"))
  | none => .value answer

/-- Answers calls from the table. -/
def connector (library : RegexLibrary := .ofPatterns) : Connector Memory
  | .connect target environment => do return .value (← connect target environment)
  | .names session pattern =>
    answered session fun memory => .value (.ok (memory.select pattern library))
  | .describe session bean =>
    answered session fun memory => .value ((memory.find bean).map (·.info))
  | .read session bean name =>
    answered session fun memory =>
      memory.unlessExplosive [name] ((memory.find bean).bind (·.read name))
  | .readMany session bean names =>
    answered session fun memory =>
      memory.unlessExplosive names ((memory.find bean).bind (·.readMany names))
  | .close session => do
    Action.modify (close session)
    return .value (.ok ())

end Memory

end BeanBridge
