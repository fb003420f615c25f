import BeanBridge.Store.Certificate
import BeanBridge.Store.PrivateKey
import BeanBridge.Text.Base64
import BeanBridge.Text.Pieces

/-! Stores of certificates and keys: sections of text between a line that begins one and a line that
ends it, with whatever else around them. -/

namespace BeanBridge.Store

/-- What a section holds. -/
inductive Kind where
  | certificate
  | wrappedKey
  | curveKey
  | primeKey
  /-- Something that is known and no part of an identity. -/
  | other
  deriving DecidableEq

/-- The kind that a label names. -/
def Kind.ofLabel? (label : String) : Option Kind :=
  match label with
  | "CERTIFICATE" => some certificate
  | "PRIVATE KEY" => some wrappedKey
  | "EC PRIVATE KEY" => some curveKey
  | "RSA PRIVATE KEY" => some primeKey
  | "PUBLIC KEY" | "X509 CRL" | "CERTIFICATE REQUEST" | "ECHCONFIG" => some other
  | _ => none

structure Section where
  kind : Kind
  bytes : List UInt8

namespace Section

def isKey (part : Section) : Bool :=
  part.kind == .wrappedKey || part.kind == .curveKey || part.kind == .primeKey

/-- The public key that belongs to the key in the section, with its kind. -/
def keyInfo? (part : Section) : Option (List UInt8) :=
  match part.kind with
  | .wrappedKey => PrivateKey.wrapped? part.bytes
  | .curveKey => PrivateKey.anyCurve? part.bytes
  | .primeKey => PrivateKey.prime? part.bytes
  | .certificate | .other => none

end Section

def beginning : List Char := "-----BEGIN ".toList

/-- The label of a line that begins a section; the line ends with five dashes, with any blanks
between and behind them. -/
def label? (line : List Char) : Option String :=
  let isTrailing (c : Char) : Bool := c == '-' || c == ' '
  let trailing := (line.reverse.takeWhile isTrailing).reverse
  let blanks := (trailing.takeWhile (· == ' ')).length
  if trailing.count '-' = 5 then
    let front := line.take (line.length - trailing.length + blanks)
    some (String.ofList (front.drop beginning.length))
  else none

/-- The sections of lines.  `begun` is the label of the section that is begun, and `body` what was
read of it.  A section of an unknown kind is passed over; none is left without an end. -/
def sections? (begun : Option String) (body : List Char) :
    List (List Char) → Option (List Section)
  | [] => if begun.isSome then none else some []
  | line :: lines =>
    if beginning.isPrefixOf line then do
      let label ← label? line
      sections? (some label) body lines
    else match begun with
      | none => sections? none body lines
      | some label =>
        if ("-----END " ++ label ++ "-----").toList.isPrefixOf line then
          match Kind.ofLabel? label with
          | none => sections? none [] lines
          | some kind => do
            let bytes ← Base64.decode? body
            let later ← sections? none [] lines
            some (⟨kind, bytes⟩ :: later)
        else sections? begun (body ++ line) lines

def read? (store : ByteArray) : Option (List Section) :=
  sections? none [] (Text.pieces (fun c => c == '\n' || c == '\r')
    (store.toList.map fun byte => Char.ofNat byte.toNat))

/-- What the owner of a store shows of himself: a certificate, and the key to it. -/
structure Identity where
  certificate : Section
  key : Section

/-- The identity in a store: its first certificate and its last key, if it holds nothing else. -/
def identity? (store : ByteArray) : Option Identity := do
  let sections ← read? store
  if sections.any (·.kind == .other) then none
  else
    let certificate ← sections.find? (·.kind == .certificate)
    let key ← (sections.filter (·.isKey)).getLast?
    some ⟨certificate, key⟩

/-- Connections can be made as the owner of an identity: the key belongs to the certificate. -/
def Identity.isUsable (identity : Identity) : Bool :=
  match identity.key.keyInfo?, Certificate.ofBytes? .shown identity.certificate.bytes with
  | some keyInfo, some certificate => keyInfo == certificate.keyInfo
  | _, _ => false

/-- Connections can be made with trust in the certificates of a store. -/
def isTrustable (store : ByteArray) : Bool :=
  match read? store with
  | none => false
  | some sections => (sections.filter (·.kind == .certificate)).all fun part =>
    (Certificate.ofTrusted? part.bytes).isSome

end BeanBridge.Store
