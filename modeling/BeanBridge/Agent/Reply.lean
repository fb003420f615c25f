import BeanBridge.Connector.Error
import BeanBridge.Http.Basic
import BeanBridge.Json.Parser

/-! What an agent answers: a status of its own, and a value or a failure. -/

namespace BeanBridge.Agent

/-- The answer of an agent. -/
structure Reply where
  status : Nat
  value : Json := .null
  message : Option String := none
  /-- The kind of a failure. -/
  kind : Option String := none
  stacktrace : Option String := none

namespace Reply

/-- The names of the fields, in their order. -/
def fieldNames : List String := ["status", "value", "error", "error_type", "stacktrace"]

/-- A text or nothing. -/
def text? : Json → Option (Option String)
  | .null => some none
  | .string text => some (some text)
  | _ => none

/-- The answer in the fields given by position. -/
def ofFields? (field? : Nat → Option Json) : Option Reply := do
  let text (position : Nat) : Option (Option String) := text? ((field? position).getD .null)
  match field? 0 with
  | some (.whole status) =>
    if 0 ≤ status ∧ status < 2 ^ 16 then
      some {
        status := status.toNat
        value := (field? 1).getD .null
        message := ← text 2
        kind := ← text 3
        stacktrace := ← text 4 }
    else none
  | _ => none

/-- The answer in the members of an object, of which no field may be given twice. -/
def ofMembers? (members : List (String × Json)) : Option Reply :=
  let given := (members.map (·.1)).filter fieldNames.elem
  if given.Nodup then ofFields? fun position => (fieldNames[position]?).bind (members.lookup ·)
  else none

/-- The answer that a text is: an object with the fields by name, or an array with the fields in
their order. -/
def parse? (text : String) : Option Reply :=
  match Json.parse? text with
  | some (.object _) => Json.parseMembers? text >>= ofMembers?
  | some (.array items) =>
    if items.length ≤ fieldNames.length then ofFields? (items[·]?) else none
  | _ => none

/-- The answer in the body of a response. -/
def ofBytes? (body : ByteArray) : Option Reply := String.fromUTF8? body >>= parse?

/-- The kinds of failures that cost the session. -/
def connectionKinds : List String :=
  ["java.io.IOException", "java.net.ConnectException", "java.rmi.ConnectException",
    "java.rmi.ConnectIOException", "java.rmi.NoSuchObjectException",
    "javax.naming.CommunicationException", "javax.naming.ServiceUnavailableException",
    "org.jboss.remoting3.NotOpenException"]

/-- The value of an answer, or its failure. -/
def result (reply : Reply) : Except ConnectorError Json :=
  if reply.status = 200 then .ok reply.value
  else
    let message := reply.message.getD
      ("Jolokia request failed with status " ++ toString reply.status)
    let kind := reply.kind.getD ""
    let stacktrace := reply.stacktrace.getD ""
    if reply.status = 401 ∨ reply.status = 403 ∨ kind ∈ connectionKinds then
      .error (.io message stacktrace)
    else .error (.remote kind message stacktrace)

/-- What comes of an exchange with the agent at an address. -/
def ofOutcome (url : Url) : Http.Outcome → Except ConnectorError Json
  | .silence =>
    .error (.io
      ("Jolokia agent unreachable: error sending request for url (" ++ url.text ++ ")") "")
  | .answer status body =>
    if Http.isSuccess status then
      match ofBytes? body with
      | some reply => reply.result
      | none => .error (.protocol "invalid Jolokia response: error decoding response body")
    else .error (.io ("Jolokia agent returned HTTP " ++ Http.statusText status) "")

end Reply

end BeanBridge.Agent
