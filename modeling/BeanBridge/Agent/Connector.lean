import BeanBridge.Agent.Session
import BeanBridge.Files.Basic
import BeanBridge.Store.Sections
import BeanBridge.Url.Parser

/-! An agent as the endpoint.  An address of the web is that of an agent; any other is reached
through the agent of the settings.  A session is open once the agent has told who it is. -/

namespace BeanBridge.Agent

/-- How agents are reached. -/
structure Settings where
  /-- The agent that reaches other endpoints. -/
  url : Option Url := none
  /-- The milliseconds that an exchange may take. -/
  timeout : UInt64 := 30000

/-- The sessions opened, by number, and the state of what carries the requests. -/
structure State (κ : Type) where
  sessions : List Session := []
  carrier : κ

/-- The content of a store. -/
def readStore (files : Files) (kind path : String) : Except ConnectorError ByteArray :=
  (files.read path).mapError fun fault =>
    .io ("cannot read " ++ kind ++ " store '" ++ path ++ "': " ++ fault.message) ""

/-- Checks the stores: first that they can be read, then that the key store holds an identity, and
then that both can be used. -/
def checkStores (files : Files) (names : Stores) : Except ConnectorError Unit := do
  let trust ← readStore files "trust" names.trust
  let key ← readStore files "key" names.key
  match Store.identity? key with
  | none => throw (.io ("cannot load key store '" ++ names.key ++ "': builder error") "")
  | some identity =>
    if Store.isTrustable trust && identity.isUsable then return ()
    else throw (.io "cannot build HTTP client: builder error" "")

/-- The address is that of an agent. -/
def isAgentUrl (target : String) : Bool :=
  target.startsWith "http://" || target.startsWith "https://"

/-- The session with the endpoint at an address. -/
def session (settings : Settings) (files : Files) (target : String) (environment : Environment) :
    Except ConnectorError Session := do
  if let some names := environment.stores then checkStores files names
  let includesStacktrace := environment.includesStacktrace
  if isAgentUrl target then
    match Url.parse target with
    | .ok agent => return { agent, credentials := environment.credentials, includesStacktrace }
    | .error flaw =>
      throw (.io ("invalid agent URL '" ++ target ++ "': " ++ flaw.message) "")
  else match settings.url with
    | none => throw (.io ("no Jolokia agent configured to reach '" ++ target ++ "'") "")
    | some agent =>
      return { agent, proxied := some ⟨target, environment.credentials⟩, includesStacktrace }

variable {κ : Type}

/-- Asks the agent within the time of an exchange. -/
def ask (settings : Settings) (transport : Http.Transport κ) (session : Session)
    (question : List (String × Json)) : Timed κ (Except ConnectorError Json) := do
  let request := session.request question
  if Http.isReachable request.url then
    let outcome ← (transport request).within settings.timeout.toNat
    return Reply.ofOutcome request.url (outcome.getD .silence)
  else
    return .error (.io
      ("Jolokia agent unreachable: builder error for url (" ++ request.url.text ++ ")") "")

/-- The bean that every agent has, and the attribute that tells who it is. -/
def probeQuestion : List (String × Json) :=
  [("type", .string "read"), ("mbean", .string "JMImplementation:type=MBeanServerDelegate"),
    ("attribute", .string "MBeanServerId")]

/-- What is asked of the carrier. -/
def onCarrier {α : Type} (act : Timed κ α) : Timed (State κ) α :=
  act.focus State.carrier fun carrier state => { state with carrier }

/-- Opens a session. -/
def connect (settings : Settings) (files : Files) (transport : Http.Transport κ)
    (target : String) (environment : Environment) :
    Timed (State κ) (Except ConnectorError SessionHandle) := do
  match session settings files target environment with
  | .error error => return .error error
  | .ok session => match ← onCarrier (ask settings transport session probeQuestion) with
    | .error error => return .error error
    | .ok _ =>
      let number := (← Action.get).sessions.length
      Action.modify fun state => { state with sessions := state.sessions ++ [session] }
      return .ok ⟨number⟩

/-- Asks over a session, and reads the answer. -/
def answer {α : Type} (settings : Settings) (transport : Http.Transport κ) (handle : SessionHandle)
    (question : List (String × Json)) (read : Json → Except ConnectorError α) :
    Timed (State κ) (Outcome (Except ConnectorError α)) := do
  match (← Action.get).sessions[handle.number]? with
  | none => return .value (.error (.io "session closed" ""))
  | some session =>
    return .value ((← onCarrier (ask settings transport session question)).bind read)

/-- Answers calls by asking an agent. -/
def connector (settings : Settings) (files : Files) (transport : Http.Transport κ) :
    Connector (State κ)
  | .connect target environment => do
    return .value (← connect settings files transport target environment)
  | .names handle pattern =>
    answer settings transport handle (namesQuestion pattern) beanNames
  | .describe handle bean =>
    answer settings transport handle (describeQuestion bean) fun value => .ok (beanInfo value)
  | .read handle bean name =>
    answer settings transport handle (readQuestion bean (.string name)) fun value =>
      .ok (.ofJson value)
  | .readMany handle bean names =>
    answer settings transport handle
      (readQuestion bean (.array (names.map Json.string))) (values names)
  | .close _ => return .value (.ok ())

end BeanBridge.Agent
