import BeanBridge.Url.Host

/-! Addresses of resources, each part in its normal form. -/

namespace BeanBridge

inductive Url.Path where
  /-- A path that is one piece of text. -/
  | plain (text : String)
  /-- Segments, each behind a slash. -/
  | segments (items : List String)
  deriving DecidableEq

/-- An address of a resource.  The parts are escaped where they have to be. -/
structure Url where
  scheme : String
  user : String := ""
  password : String := ""
  host : Option Host := none
  port : Option UInt16 := none
  path : Url.Path
  query : Option String := none
  fragment : Option String := none
  deriving DecidableEq

namespace Url

/-- The port that is meant when none is given, in the schemes that come with one. -/
def defaultPort? (scheme : String) : Option UInt16 :=
  match scheme with
  | "http" | "ws" => some 80
  | "https" | "wss" => some 443
  | "ftp" => some 21
  | _ => none

/-- The URL has a host that is not empty. -/
def hasHost (url : Url) : Bool := url.host.any (· != .name "")

def Path.text : Path → String
  | plain text => text
  | segments items => String.join (items.map ("/" ++ ·))

/-- The user and the password, as they stand in front of the host. -/
def userInfo (url : Url) : String :=
  if url.user.isEmpty && url.password.isEmpty then ""
  else url.user ++ (if url.password.isEmpty then "" else ":" ++ url.password) ++ "@"

/-- What stands between the scheme and the path.  A path that begins with an empty segment is kept
apart from the scheme when there is no host. -/
def authority (url : Url) : String :=
  match url.host, url.path with
  | some host, _ =>
    "//" ++ url.userInfo ++ host.text ++
      (url.port.map fun port => ":" ++ toString port.toNat).getD ""
  | none, .segments ("" :: _ :: _) => "/."
  | none, _ => ""

def text (url : Url) : String :=
  url.scheme ++ ":" ++ url.authority ++ url.path.text ++
    (url.query.map ("?" ++ ·)).getD "" ++ (url.fragment.map ("#" ++ ·)).getD ""

end Url

end BeanBridge
