import BeanBridge.Agent.Reply
import BeanBridge.BeanName.Path
import BeanBridge.BeanName.Parser
import BeanBridge.Connector.Call
import BeanBridge.Value.OfJson

/-! Sessions with an agent.  The agent keeps none: every request says again which endpoint is meant.
-/

namespace BeanBridge.Agent

/-- An endpoint that the agent reaches for the asker. -/
structure Proxied where
  url : String
  credentials : Option Credentials
  deriving DecidableEq

/-- What every request of a session has in common. -/
structure Session where
  agent : Url
  credentials : Option Credentials := none
  /-- The endpoint, if it is not the agent's own. -/
  proxied : Option Proxied := none
  includesStacktrace : Bool := false
  deriving DecidableEq

namespace Session

/-- The session as text for logs. -/
def debugText (session : Session) : String :=
  Text.record "JolokiaSession"
    [("endpoint", Text.quoted session.agent.text),
      ("proxy_target", Text.option (session.proxied.map fun proxied => Text.quoted proxied.url)),
      ("include_stacktrace", Text.flag session.includesStacktrace)]
    true

/-- The endpoint as a member of a request. -/
def targetMembers (proxied : Proxied) : List (String × Json) :=
  let credentials := match proxied.credentials with
    | none => []
    | some ⟨user, password⟩ => [("user", .string user), ("password", .string password)]
  [("target", .object (("url", .string proxied.url) :: credentials))]

/-- The body of a request: what is asked, the endpoint, and what is to be reported of failures. -/
def body (session : Session) (question : List (String × Json)) : Json :=
  .object (question ++ (session.proxied.map targetMembers).getD [] ++
    [("config",
      .object [("includeStackTrace", .string (Text.flag session.includesStacktrace))])])

/-- The request that asks a question. -/
def request (session : Session) (question : List (String × Json)) : Http.Request :=
  let (own, url) := Http.splitCredentials session.agent
  { url, credentials := own ++ session.credentials.toList, body := session.body question }

end Session

/-- The question which beans a pattern selects. -/
def namesQuestion (pattern : BeanName) : List (String × Json) :=
  [("type", .string "search"), ("mbean", .string pattern.text)]

/-- The question what is known of a bean. -/
def describeQuestion (bean : BeanName) : List (String × Json) :=
  [("type", .string "list"), ("path", .string bean.path)]

/-- The question for values of attributes. -/
def readQuestion (bean : BeanName) (names : Json) : List (String × Json) :=
  [("type", .string "read"), ("mbean", .string bean.text), ("attribute", names)]

/-- A name of a bean in an answer. -/
def beanName (item : Json) : Except ConnectorError BeanName :=
  match item.asString? with
  | none => .error (.protocol ("search returned non-string name " ++ item.text))
  | some text =>
    (BeanName.parse text).mapError fun flaw => .protocol (flaw.message text)

/-- The names of beans in an answer. -/
def beanNames : Json → Except ConnectorError (List BeanName)
  | .array items => items.mapM beanName
  | value => .error (.protocol ("search returned " ++ value.text ++ " instead of a list"))

/-- The text under a key, empty if there is none. -/
def textAt (key : String) (value : Json) : String := ((value.get? key).bind (·.asString?)).getD ""

/-- What is known of a bean, in an answer.  Every attribute counts as one that can be read. -/
def beanInfo (value : Json) : BeanInfo where
  className := textAt "class" value
  description := textAt "desc" value
  attributes := match value.get? "attr" with
    | some (.object members) => members.map fun (name, info) => ⟨name, textAt "type" info, true⟩
    | _ => []

/-- The values of the attributes asked for, in the order asked.  A member counts once, so for a name
asked for again there is nothing. -/
def takeValues : List String → List (String × Json) → List (String × Value)
  | [], _ => []
  | name :: names, members =>
    match members.lookup name with
    | some value =>
      (name, .ofJson value) :: takeValues names (members.filter fun member => member.1 != name)
    | none => takeValues names members

/-- The values of several attributes in an answer. -/
def values (names : List String) : Json → Except ConnectorError (List (String × Value))
  | .object members => .ok (takeValues names members)
  | value =>
    .error (.protocol
      ("multi-attribute read returned " ++ value.text ++ " instead of an object"))

end BeanBridge.Agent
