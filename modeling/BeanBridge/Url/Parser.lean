import BeanBridge.Url.Basic

/-! Reading URLs.  Every part is brought to its normal form: the scheme and the names of hosts in
lower case, ports left out where they are the usual ones, and paths without `.` and `..`. -/

namespace BeanBridge.Url

/-- Why a text is no URL. -/
inductive Flaw where
  | noScheme
  | emptyHost
  | badName
  | badPort
  | badV4
  | badV6
  | badCharacter
  deriving DecidableEq

/-- The flaw in words. -/
def Flaw.message : Flaw → String
  | noScheme => "relative URL without a base"
  | emptyHost => "empty host"
  | badName => "invalid international domain name"
  | badPort => "invalid port number"
  | badV4 => "invalid IPv4 address"
  | badV6 => "invalid IPv6 address"
  | badCharacter => "invalid domain character"

def Flaw.ofHost : Host.Flaw → Flaw
  | .emptyName => emptyHost
  | .badName => badName
  | .badV4 => badV4
  | .badV6 => badV6
  | .badCharacter => badCharacter

/-- A character that does not count at the ends of a URL. -/
def isMargin (c : Char) : Bool := c.toNat ≤ 0x20

/-- A character that does not count anywhere in a URL. -/
def isBreak (c : Char) : Bool := c == '\t' || c == '\n' || c == '\r'

/-- The text between its margins. -/
def trim (text : List Char) : List Char :=
  ((text.dropWhile isMargin).reverse.dropWhile isMargin).reverse

/-- The characters that count. -/
def significant (text : List Char) : List Char := text.filter (!isBreak ·)

/-- How many of the characters that count follow each of the others. -/
def breaks : List Char → List Nat
  | [] => []
  | c :: text => if isBreak c then (significant text).length :: breaks text else breaks text

def isSchemeCharacter (c : Char) : Bool := c.isAlphanum || c == '+' || c == '-' || c == '.'

/-- The scheme and what follows its colon. -/
def scheme? (text : List Char) : Option (String × List Char) :=
  match text.span isSchemeCharacter with
  | (c :: scheme, ':' :: rest) =>
    if c.isAlpha then some (String.ofList ((c :: scheme).map (·.toLower)), rest) else none
  | _ => none

/-- The schemes whose URLs always have a host. -/
def isCommon (scheme : String) : Bool := (defaultPort? scheme).isSome

/-- A slash, or a backslash in its place in the URLs of common schemes. -/
def isSlash (isLax : Bool) (c : Char) : Bool := c == '/' || (isLax && c == '\\')

/-! Paths. -/

/-- A segment that stays where it is. -/
def isDot (segment : List Char) : Bool :=
  segment == ['.'] || segment == ['%', '2', 'e'] || segment == ['%', '2', 'E']

/-- A segment that goes one up. -/
def isDoubleDot (segment : List Char) : Bool :=
  (List.range segment.length).any fun n => isDot (segment.take n) && isDot (segment.drop n)

/-- A letter and a colon, or a bar in its place. -/
def isDrive : List Char → Bool
  | [c, d] => c.isAlpha && (d == ':' || d == '|')
  | _ => false

/-- A drive, or a drive before a backslash. -/
def beginsWithDrive (segment : List Char) : Bool :=
  isDrive (segment.take 2) && (segment.drop 2).head?.all (· == '\\')

/-- The segments without the last, which stays when it begins with a drive. -/
def shorten (segments : List (List Char)) : List (List Char) :=
  match segments.getLast? with
  | some last => if beginsWithDrive last then segments else segments.dropLast
  | none => []

/-- A drive with a colon, and any other segment as it is. -/
def withColon (segment : List Char) : List Char :=
  if isDrive segment then segment.take 1 ++ [':'] else segment

/-- Puts segments behind others, `.` and `..` carried out.  In the path of a file, a drive that
comes first has a colon. -/
def place (isFile : Bool) : (segments : List (List Char)) → List (List Char) → List (List Char)
  | segments, [] => segments
  | segments, segment :: later =>
    let escaped := Percent.encode Percent.inPath segment
    let placed :=
      if isDoubleDot segment then shorten segments
      else if isDot segment then segments
      else segments ++ [if isFile && segments.isEmpty then withColon escaped else escaped]
    if later.isEmpty && (isDot segment || isDoubleDot segment) then placed ++ [[]]
    else place isFile placed later

/-- The segments of a path, behind its first slash. -/
def segments (isLax : Bool) (path : List Char) : List (List Char) :=
  place false [] (Text.pieces (isSlash isLax) path)

def Path.ofSegments (items : List (List Char)) : Path := .segments (items.map String.ofList)

/-! The part between the scheme and the path. -/

/-- The text before the last `@` and the text behind it. -/
def splitUser (text : List Char) : Option (List Char × List Char) :=
  if text.elem '@' then
    let behind := (text.reverse.takeWhile (· != '@')).reverse
    some (text.take (text.length - behind.length - 1), behind)
  else none

/-- The host and what follows it: nothing, or a colon that stands in no brackets and the port. -/
def splitHost (isInside : Bool) : List Char → List Char × List Char
  | [] => ([], [])
  | c :: text =>
    if c == ':' && !isInside then ([], c :: text)
    else
      let (host, port) := splitHost (c == '[' || (isInside && c != ']')) text
      (c :: host, port)

/-- The port in decimal digits, none when there are none. -/
def port? (digits : List Char) : Except Flaw (Option UInt16) :=
  if digits.isEmpty then .ok none
  else match Host.digits? 10 digits with
    | some n => if n < 2 ^ 16 then .ok (some (.ofNat n)) else .error .badPort
    | none => .error .badPort

/-- A user and a password, escaped. -/
def readUser (text : List Char) : String × String :=
  let (user, password) := Text.cutAt ':' text
  let escaped (text : List Char) := String.ofList (Percent.encode Percent.inUserInfo text)
  (escaped user, escaped (password.getD []))

/-- The URL with an authority, which ends where the path begins.  `hasTail` tells that a query or a
fragment follows. -/
def withAuthority (scheme : String) (hasTail : Bool) (text : List Char) : Except Flaw Url := do
  let isLax := isCommon scheme
  let (authority, path) := text.span (!isSlash isLax ·)
  let (user, text) := match splitUser authority with
    | some (user, text) => (some user, text)
    | none => (none, authority)
  if user == some [] && text.isEmpty && (hasTail || !path.isEmpty) then throw .emptyHost
  let (hostText, portText) := splitHost false text
  let (user, password) := readUser (user.getD [])
  if hostText.isEmpty then
    if isLax || !portText.isEmpty || !user.isEmpty || !password.isEmpty then throw .emptyHost
  let host ← (if isLax then Host.parse hostText else Host.parseOpaque hostText).mapError .ofHost
  let (digits, overhang) := (portText.drop 1).span (· != '\\')
  let port ← port? digits
  let port := if port = defaultPort? scheme then none else port
  let path := overhang ++ path
  let path :=
    if path.isEmpty && !isLax then []
    else segments isLax (if path.head?.any (isSlash isLax) then path.drop 1 else path)
  return { scheme, user, password, host := some host, port, path := .ofSegments path }

/-- The text without a slash that it begins with. -/
def dropSlash (text : List Char) : List Char :=
  if text.head?.any (isSlash true) then text.drop 1 else text

/-- A path begins with a drive that is broken off what follows in its segment.  `breaks` tells how
many characters follow each break. -/
def hasBrokenDrive (breaks : List Nat) (path : List Char) : Bool :=
  isDrive (path.take 2) && path[1]? == some ':' && (path[2]?).any (!isSlash true ·) &&
    breaks.elem (path.length - 2)

/-- The segments of the path of a file.  A drive that is broken off is a segment of its own, and
what follows it is not carried out. -/
def fileSegments (breaks : List Nat) (path : List Char) : List (List Char) :=
  match Text.pieces (isSlash true) path with
  | first :: later =>
    if hasBrokenDrive breaks path then
      place true [first.take 2, Percent.encode Percent.inPath (first.drop 2)] later
    else place true [] (first :: later)
  | [] => []

/-- The URL of a file with its host and the segments of its path. -/
def withFile (host : Host) (segments : List (List Char)) : Url :=
  let path := match segments.dropWhile (·.isEmpty) with
    | [] => [[]]
    | path => path
  { scheme := "file", host := some host, path := .ofSegments path }

/-- The URL of a file.  A host that is this one is left out, and so is any before a drive. -/
def ofFile (breaks : List Nat) (text : List Char) : Except Flaw Url := do
  let isSlash := isSlash true
  match text with
  | a :: b :: rest =>
    if isSlash a && isSlash b then
      let (hostText, path) := rest.span (!isSlash ·)
      if isDrive hostText then return withFile (.name "") (fileSegments breaks rest)
      let host ← if hostText.isEmpty then pure (Host.name "")
        else (Host.parse hostText).mapError Flaw.ofHost
      if host = .name "" || host = .name "localhost" then
        return withFile (.name "") (place true [] (Text.pieces isSlash path))
      let path := dropSlash path
      let segments := fileSegments breaks path
      let isDropped := segments.head?.any isDrive && !hasBrokenDrive breaks path
      return withFile (if isDropped then .name "" else host) segments
    else return withFile (.name "") (fileSegments breaks (dropSlash text))
  | text => return withFile (.name "") (fileSegments breaks (dropSlash text))

/-- The URL before its query and fragment. -/
def readFront (scheme : String) (hasTail : Bool) (breaks : List Nat) (text : List Char) :
    Except Flaw Url :=
  if scheme = "file" then ofFile breaks text
  else if isCommon scheme then withAuthority scheme hasTail (text.dropWhile (isSlash true))
  else match text with
    | '/' :: '/' :: text => withAuthority scheme hasTail text
    | '/' :: text => .ok { scheme, path := .ofSegments (segments false text) }
    | text =>
      .ok { scheme, path := .plain (String.ofList (Percent.encode Percent.isControl text)) }

def parse (text : String) : Except Flaw Url :=
  let text := trim text.toList
  match scheme? (significant text) with
  | none => .error .noScheme
  | some (scheme, _) => do
    let (text, fragment) := Text.cutAt '#' ((text.dropWhile (· != ':')).drop 1)
    let (text, query) := Text.cutAt '?' text
    let url ← readFront scheme (query.isSome || fragment.isSome) (breaks text) (significant text)
    let isQuoted (c : Char) : Bool :=
      Percent.inQuery c || ((isCommon scheme || scheme = "file") && c == '\'')
    let escaped (isEscaped : Char → Bool) (text : List Char) : String :=
      String.ofList (Percent.encode isEscaped (significant text))
    return { url with
      query := query.map (escaped isQuoted)
      fragment := fragment.map (escaped Percent.inFragment) }

end BeanBridge.Url
