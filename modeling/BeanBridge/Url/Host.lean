import BeanBridge.Url.Domain
import BeanBridge.Url.Percent

/-! The hosts of URLs: names, and addresses in numbers. -/

namespace BeanBridge

inductive Host where
  | name (text : String)
  /-- An address of four bytes. -/
  | v4 (address : Nat)
  /-- An address of eight pieces. -/
  | v6 (pieces : List Nat)
  deriving DecidableEq

namespace Host

/-- Why a text is no host. -/
inductive Flaw where
  | emptyName
  | badName
  | badV4
  | badV6
  | badCharacter
  deriving DecidableEq

/-- The value of digits in a base. -/
def digits? (base : Nat) (digits : List Char) : Option Nat :=
  digits.foldlM (fun n c => do
    let d ← Hex.digit? c
    if d < base then some (n * base + d) else none) 0

/-- A part of an address: hexadecimal after `0x`, octal after `0`, else decimal. -/
def part? : List Char → Option Nat
  | [] => none
  | '0' :: 'x' :: digits | '0' :: 'X' :: digits => digits? 16 digits
  | '0' :: d :: digits => digits? 8 (d :: digits)
  | digits => digits? 10 digits

/-- The parts between dots; a dot at the end does not count. -/
def parts (name : List Char) : List (List Char) :=
  let parts := Text.pieces (· == '.') name
  if parts.length ≠ 1 ∧ parts.getLast? = some [] then parts.dropLast else parts

/-- The name is an address in numbers or nothing: its last part is a number. -/
def isNumeric (name : List Char) : Bool :=
  match (parts name).getLast? with
  | none => false
  | some last => (!last.isEmpty && last.all Char.isDigit) || (part? last).isSome

/-- The address in numbers.  The last part fills the bytes that the others leave. -/
def v4? (name : List Char) : Option Nat := do
  let numbers ← (parts name).mapM part?
  let last ← numbers.getLast?
  let first := numbers.dropLast
  if first.length > 3 ∨ first.any (255 < ·) ∨ 256 ^ (4 - first.length) ≤ last then none
  else some (first.zipIdx.foldl (fun sum (n, i) => sum + n * 256 ^ (3 - i)) last)

/-- Four bytes as numbers between dots, without zeros in front, as the last two pieces. -/
def dotted? (text : List Char) : Option (List Nat) := do
  let bytes ← (Text.pieces (· == '.') text).mapM fun digits => do
    if digits.isEmpty || !digits.all Char.isDigit || (digits.head? == some '0' && digits.length > 1)
    then none
    else
      let n ← digits? 10 digits
      if n < 256 then some n else none
  match bytes with
  | [a, b, c, d] => some [a * 256 + b, c * 256 + d]
  | _ => none

/-- The pieces of a text with room for so many, and the gap, for which `none` stands. -/
def pieces? : (room : Nat) → (hasGap : Bool) → List Char → Option (List (Option Nat))
  | _, _, [] => some []
  | 0, _, _ => none
  | room + 1, hasGap, ':' :: text =>
    if hasGap then none else (pieces? room true text).map (none :: ·)
  | room + 1, hasGap, text => do
    let digits := (text.take 4).takeWhile fun c => (Hex.digit? c).isSome
    let piece ← digits? 16 digits
    match text.drop digits.length with
    | [] => some [some piece]
    | [':'] => none
    | ':' :: text => (pieces? room hasGap text).map (some piece :: ·)
    | '.' :: _ =>
      if digits.isEmpty || room = 0 then none else (dotted? text).map (·.map some)
    | _ => none

/-- The address of eight pieces; a gap stands for one zero or more. -/
def v6? (text : List Char) : Option (List Nat) := do
  let pieces ← match text with
    | [_] => none
    | ':' :: ':' :: text => (pieces? 7 true text).map (none :: ·)
    | ':' :: _ => none
    | text => pieces? 8 false text
  let known := pieces.filterMap id
  if pieces.elem none then
    some (pieces.flatMap fun
      | some piece => [piece]
      | none => List.replicate (8 - known.length) 0)
  else if known.length = 8 then some known else none

/-- The host of a URL of one of the common schemes. -/
def parse (text : List Char) : Except Flaw Host :=
  match text with
  | '[' :: address =>
    if address.getLast? = some ']' then
      match v6? address.dropLast with
      | some pieces => .ok (.v6 pieces)
      | none => .error .badV6
    else .error .badV6
  | text =>
    match (Percent.decodeText? text).bind fun name => Domain.ascii? name.toList with
    | none => .error .badName
    | some [] => .error .emptyName
    | some ascii =>
      if isNumeric ascii then
        match v4? ascii with
        | some address => .ok (.v4 address)
        | none => .error .badV4
      else .ok (.name (String.ofList ascii))

/-- A character that cannot stand in the host of any URL. -/
def isForbidden (c : Char) : Bool :=
  ['\x00', '\t', '\n', '\r', ' ', '#', '/', ':', '<', '>', '?', '@', '[', '\\', ']', '^',
    '|'].elem c

/-- The host of a URL of another scheme, which stays as it is written. -/
def parseOpaque (text : List Char) : Except Flaw Host :=
  match text with
  | '[' :: _ => parse text
  | text =>
    if text.any isForbidden then .error .badCharacter
    else .ok (.name (String.ofList (Percent.encode Percent.isControl text)))

/-- How many zeros the pieces begin with. -/
def zeros (pieces : List Nat) : Nat := (pieces.takeWhile (· == 0)).length

/-- Where the longest run of zeros begins and how long it is; of several, the first. -/
def longestRun (pieces : List Nat) : Nat × Nat :=
  (List.range pieces.length).foldl (fun best i =>
    let length := zeros (pieces.drop i)
    if best.2 < length then (i, length) else best) (0, 0)

/-- Pieces in hexadecimal digits, with colons between them. -/
def piecesText (pieces : List Nat) : String :=
  ":".intercalate (pieces.map fun piece => String.ofList (Nat.toDigits 16 piece))

/-- A host as it stands in a URL.  In an address of eight pieces the longest run of two zeros or
more is left out. -/
def text : Host → String
  | name text => text
  | v4 n =>
    ".".intercalate ((List.range 4).map fun i => toString (n / 256 ^ (3 - i) % 256))
  | v6 pieces =>
    let (start, length) := longestRun pieces
    if length < 2 then "[" ++ piecesText pieces ++ "]"
    else
      "[" ++ piecesText (pieces.take start) ++ "::" ++
        piecesText (pieces.drop (start + length)) ++ "]"

end Host

end BeanBridge
