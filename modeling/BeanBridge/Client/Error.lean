import BeanBridge.Frame.Basic
import BeanBridge.Protocol.Response
import BeanBridge.Text.Duration

/-! Failures of the calls of a client. -/

namespace BeanBridge

/-- Why the call of a client failed. -/
inductive ClientError where
  /-- The bridge has lost its session. -/
  | connection (message : String)
  /-- The operation failed. -/
  | jmx (message cause stacktrace : String)
  /-- The bridge could not read the request. -/
  | rejected (message : String)
  /-- The answer could not be read. -/
  | codec
  | io (error : StreamError)
  /-- No answer came within so many nanoseconds. -/
  | timeout (nanoseconds : Nat)
  /-- The answer bears the number of another request. -/
  | idMismatch (expected actual : UInt64)
  /-- The answer is of a kind that does not fit the request. -/
  | unexpectedResponse (method kind : String)
  | closed
  /-- The process of the bridge could not be started or ended. -/
  | process (message : String)
  deriving DecidableEq

namespace ClientError

/-- The failure in words. -/
def message : ClientError → String
  | connection message => "connection error: " ++ message
  | jmx message cause stacktrace =>
    "jmx error: " ++ message ++ ", cause: " ++ cause ++ ", stacktrace: " ++ stacktrace
  | rejected message => "bridge rejected request: " ++ message
  | codec => decodeComplaint
  | io error => "transport error: " ++ error.message
  | timeout nanoseconds => "no response from bridge within " ++ Text.duration nanoseconds
  | idMismatch expected actual =>
    "response id mismatch: sent " ++ toString expected.toNat ++ ", received " ++
      toString actual.toNat
  | unexpectedResponse method kind =>
    "unexpected '" ++ kind ++ "' response to '" ++ method ++ "'"
  | closed => "bridge connection closed"
  | process message => "bridge process error: " ++ message

def isConnection : ClientError → Bool
  | connection _ => true
  | _ => false

def isJmx : ClientError → Bool
  | jmx .. => true
  | _ => false

/-- No call can be made any more. -/
def isFatal : ClientError → Bool
  | codec | io _ | timeout _ | idMismatch .. | closed => true
  | _ => false

/-- The failure that an answer reports. -/
def ofReply : ReplyError → ClientError
  | .connection message => connection message
  | .jmx message cause stacktrace => jmx message cause stacktrace
  | .invalidRequest message => rejected message

end ClientError

end BeanBridge
