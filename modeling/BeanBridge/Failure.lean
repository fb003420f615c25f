import BeanBridge.BeanName.Parser
import BeanBridge.Connector.Error
import BeanBridge.Protocol.Response
import BeanBridge.Value.Flatten

/-! Failures of operations: what is reported of them, and what can cause them. -/

namespace BeanBridge

/-- The failure of an operation, as it is reported. -/
inductive Failure where
  /-- No session is open any more; the next operation opens one. -/
  | connection (message : String)
  | operation (message cause stacktrace : String)
  deriving DecidableEq

namespace Failure

def message : Failure → String
  | connection message | operation message _ _ => message

def isConnection : Failure → Bool
  | connection _ => true
  | operation .. => false

/-- The failure in the answer to a request. -/
def replyError : Failure → ReplyError
  | connection message => .connection message
  | operation message cause stacktrace => .jmx message cause stacktrace

end Failure

/-- What a session is used for when it is found broken. -/
inductive Activity where
  | queryingBeans
  | describingBean
  | readingAttribute
  | readingAttributes
  deriving DecidableEq

/-- What is said of the activity. -/
def Activity.complaint : Activity → String
  | queryingBeans => "problem occurred when talking to the JMX server while querying mBeans"
  | describingBean => "problem occurred when talking to the JMX server while requesting mBean info"
  | readingAttribute => "can't connect to JMX server"
  | readingAttributes =>
    "problem occurred when talking to the JMX server while requesting attributes"

/-- What can make an operation fail. -/
inductive Fault where
  /-- No settings were ever given. -/
  | notConfigured
  /-- There is no session to close. -/
  | notConnected
  /-- There is no session although one was just opened. -/
  | notEstablished
  | unreachable (target : String) (verbose : Bool) (error : ConnectorError)
  | lost (activity : Activity) (error : ConnectorError)
  | queryRefused (pattern : BeanName) (error : ConnectorError)
  | beanRefused (bean : BeanName) (error : ConnectorError)
  | attributeRefused (name : String) (bean : BeanName) (error : ConnectorError)
  | unusable (reason : Value.Unusable)
  | malformedName (text : String) (flaw : BeanName.Flaw)
  /-- Calls are not being recorded. -/
  | statsOff
  | timedOut (milliseconds : Int64)
  /-- The worker is gone. -/
  | interrupted
  | crashed (message : Option String)

namespace Fault

/-- The stack trace behind the message of a failed connection. -/
def traceText (verbose : Bool) (error : ConnectorError) : String :=
  if verbose && !error.stacktrace.isEmpty then ", stacktrace: '" ++ error.stacktrace ++ "'" else ""

/-- The failure of an operation that the endpoint refused. -/
def refusal (message : String) (error : ConnectorError) : Failure :=
  .operation message error.message error.stacktrace

/-- What is reported of a fault. -/
def failure : Fault → Failure
  | notConfigured =>
    .connection "failed to get connection to JMX server: configuration not provided"
  | notConnected =>
    .connection "cannot disconnect, connection to JMX endpoint is not established"
  | notEstablished => .connection "connection to JMX endpoint is not established"
  | unreachable target verbose error =>
    .connection ("can't connect to JMX server: '" ++ target ++ "', error: '" ++ error.message ++
      "'" ++ traceText verbose error)
  | lost activity error =>
    .connection (activity.complaint ++ ", error: '" ++ error.message ++ "'")
  | queryRefused pattern error => refusal ("can't get beans for query: " ++ pattern.text) error
  | beanRefused bean error => refusal ("can't find mBean: " ++ bean.text) error
  | attributeRefused name bean error =>
    refusal ("can't get attribute: " ++ name ++ " for bean: " ++ bean.text ++ ": ") error
  | unusable reason => .operation reason.message "" ""
  | malformedName text flaw =>
    .operation ("cannot parse MBean glob pattern: '" ++ text ++ "', valid: 'DOMAIN:BEAN'")
      (flaw.message text) ""
  | statsOff => .operation "internal stats not activated" "" ""
  | timedOut milliseconds =>
    .operation ("request timeout exceeded: " ++ toString milliseconds.toInt ++ "ms") "" ""
  | interrupted => .operation "request was interrupted" "" ""
  | crashed message =>
    .operation ("failed to execute operation, error: " ++ message.getD "unknown panic") "" ""

end Fault

/-- The bean that a text names, or the failure of an operation on it. -/
def BeanName.parseForOperation (text : String) : Except Failure BeanName :=
  (BeanName.parse text).mapError fun flaw => (Fault.malformedName text flaw).failure

end BeanBridge
