/-! Failures of calls to an endpoint. -/

namespace BeanBridge

/-- Why a call to an endpoint failed. -/
inductive ConnectorError where
  /-- The session cannot be used any more. -/
  | io (message stacktrace : String)
  /-- The endpoint refused the call. -/
  | remote (kind message stacktrace : String)
  /-- The endpoint answered something that was not expected. -/
  | protocol (message : String)
  deriving DecidableEq

namespace ConnectorError

def message : ConnectorError → String
  | io message _ | remote _ message _ | protocol message => message

/-- The stack trace of the endpoint, empty if it sent none. -/
def stacktrace : ConnectorError → String
  | io _ stacktrace | remote _ _ stacktrace => stacktrace
  | protocol _ => ""

/-- The session has to be given up. -/
def isIo : ConnectorError → Bool
  | io .. => true
  | _ => false

end ConnectorError

end BeanBridge
