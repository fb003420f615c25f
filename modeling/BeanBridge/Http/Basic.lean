import BeanBridge.Config.Environment
import BeanBridge.Json.Basic
import BeanBridge.Text.Base64
import BeanBridge.Timed
import BeanBridge.Url.Basic

/-! Exchanges over HTTP: a request with a JSON body, and what comes of sending it. -/

namespace BeanBridge.Http

structure Request where
  /-- The address, without user and password. -/
  url : Url
  /-- Who asks, one header for each. -/
  credentials : List Credentials
  body : Json

/-- What comes of sending a request. -/
inductive Outcome where
  | answer (status : Nat) (body : ByteArray)
  /-- There was no answer. -/
  | silence

/-- A way to send requests, with a state of its own and in its own time. -/
abbrev Transport (κ : Type) : Type := Request → Timed κ Outcome

/-- The way by which nothing is ever reached. -/
def Transport.cutOff : Transport Unit := fun _ => pure .silence

/-- The header that tells who asks. -/
def authorization (credentials : Credentials) : String :=
  "Basic " ++ String.ofList
    (Base64.encode (credentials.user ++ ":" ++ credentials.password).toUTF8.toList)

/-- The user and the password in an address, and the address without them. -/
def splitCredentials (url : Url) : List Credentials × Url :=
  match Percent.decodeText? url.user.toList with
  | none => ([], url)
  | some user =>
    let password := Percent.decodeText? url.password.toList
    if user.isEmpty && password.all (·.isEmpty) then ([], url)
    else ([⟨user, password.getD ""⟩], { url with user := "", password := "" })

/-- The longest address, in bytes. -/
def maxUrlSize : Nat := 65534

/-- Requests can be sent to the address: it is one of HTTP, not too long, and the host holds no
character that HTTP has no place for. -/
def isReachable (url : Url) : Bool :=
  (url.scheme == "http" || url.scheme == "https") && url.hasHost &&
    url.text.utf8ByteSize ≤ maxUrlSize &&
    (url.host.map (·.text)).all fun host =>
      !host.toList.any ['"', '\x60', '\x7b', '\x7d'].elem

/-- A status that tells of success. -/
def isSuccess (status : Nat) : Bool := 200 ≤ status && status < 300

/-- The words for a status. -/
def reason? : Nat → Option String
  | 100 => some "Continue"
  | 101 => some "Switching Protocols"
  | 102 => some "Processing"
  | 103 => some "Early Hints"
  | 200 => some "OK"
  | 201 => some "Created"
  | 202 => some "Accepted"
  | 203 => some "Non Authoritative Information"
  | 204 => some "No Content"
  | 205 => some "Reset Content"
  | 206 => some "Partial Content"
  | 207 => some "Multi-Status"
  | 208 => some "Already Reported"
  | 226 => some "IM Used"
  | 300 => some "Multiple Choices"
  | 301 => some "Moved Permanently"
  | 302 => some "Found"
  | 303 => some "See Other"
  | 304 => some "Not Modified"
  | 305 => some "Use Proxy"
  | 307 => some "Temporary Redirect"
  | 308 => some "Permanent Redirect"
  | 400 => some "Bad Request"
  | 401 => some "Unauthorized"
  | 402 => some "Payment Required"
  | 403 => some "Forbidden"
  | 404 => some "Not Found"
  | 405 => some "Method Not Allowed"
  | 406 => some "Not Acceptable"
  | 407 => some "Proxy Authentication Required"
  | 408 => some "Request Timeout"
  | 409 => some "Conflict"
  | 410 => some "Gone"
  | 411 => some "Length Required"
  | 412 => some "Precondition Failed"
  | 413 => some "Payload Too Large"
  | 414 => some "URI Too Long"
  | 415 => some "Unsupported Media Type"
  | 416 => some "Range Not Satisfiable"
  | 417 => some "Expectation Failed"
  | 418 => some "I'm a teapot"
  | 421 => some "Misdirected Request"
  | 422 => some "Unprocessable Entity"
  | 423 => some "Locked"
  | 424 => some "Failed Dependency"
  | 425 => some "Too Early"
  | 426 => some "Upgrade Required"
  | 428 => some "Precondition Required"
  | 429 => some "Too Many Requests"
  | 431 => some "Request Header Fields Too Large"
  | 451 => some "Unavailable For Legal Reasons"
  | 500 => some "Internal Server Error"
  | 501 => some "Not Implemented"
  | 502 => some "Bad Gateway"
  | 503 => some "Service Unavailable"
  | 504 => some "Gateway Timeout"
  | 505 => some "HTTP Version Not Supported"
  | 506 => some "Variant Also Negotiates"
  | 507 => some "Insufficient Storage"
  | 508 => some "Loop Detected"
  | 510 => some "Not Extended"
  | 511 => some "Network Authentication Required"
  | _ => none

/-- A status with its words. -/
def statusText (status : Nat) : String :=
  toString status ++ " " ++ (reason? status).getD "<unknown status code>"

end BeanBridge.Http
