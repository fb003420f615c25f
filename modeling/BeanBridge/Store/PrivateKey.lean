import BeanBridge.Curve.Edwards
import BeanBridge.Curve.Weierstrass
import BeanBridge.Digest.Sha512
import BeanBridge.Store.PrimeKey

/-! Private keys, and the public keys that belong to them.  A private key that brings its public key
is read only when the two belong together. -/

namespace BeanBridge.PrivateKey

open Der

/-! The kinds of keys, by their names. -/

def primeKind : List UInt8 :=
  written nameTag [0x2a, 0x86, 0x48, 0x86, 0xf7, 0x0d, 0x01, 0x01, 0x01] ++ written 0x05 []

/-- The name of the curve of 256 bits. -/
def p256Name : List UInt8 :=
  written nameTag [0x2a, 0x86, 0x48, 0xce, 0x3d, 0x03, 0x01, 0x07]

/-- The name of the curve of 384 bits. -/
def p384Name : List UInt8 := written nameTag [0x2b, 0x81, 0x04, 0x00, 0x22]

/-- The kind of the keys of the curve with a name. -/
def curveKind (curveName : List UInt8) : List UInt8 :=
  written nameTag [0x2a, 0x86, 0x48, 0xce, 0x3d, 0x02, 0x01] ++ curveName

def edwardsKind : List UInt8 := written nameTag [0x2b, 0x65, 0x70]

/-- The kind of a public key and the key, as certificates have it. -/
def keyInfo (kind publicKey : List UInt8) : List UInt8 :=
  written sequenceTag kind ++ written bitsTag (0 :: publicKey)

/-! Keys by themselves; they are read into what certificates have of them. -/

/-- A key of two primes. -/
def prime? (bytes : List UInt8) : Option (List UInt8) := do
  let key ← PrimeKey.reader.whole? bytes
  if key.isSound then some (keyInfo primeKind key.publicKey) else none

/-- A secret number on a curve, and the point that it leads to. -/
def curvePair (curveName : List UInt8) : Reader (List UInt8 × List UInt8) := sequence do
  guard ((← small) = 1)
  let secret ← content bytesTag
  guard ((← content? (numbered 0)).all (· == curveName))
  pure (secret, ← within (numbered 1) (bits bitsTag))

def curve? (curve : Weierstrass.Curve) (curveName bytes : List UInt8) : Option (List UInt8) := do
  let (secret, publicKey) ← (curvePair curveName).whole? bytes
  let n := ofBytes secret
  if secret.length ≠ curve.width ∨ n = 0 ∨ curve.order ≤ n then none
  let (x, y) := curve.publicPoint n
  if 0x04 :: (toBytes curve.width x ++ toBytes curve.width y) = publicKey then
    some (keyInfo (curveKind curveName) publicKey)
  else none

def anyCurve? (bytes : List UInt8) : Option (List UInt8) :=
  (curve? Weierstrass.p256 p256Name bytes).orElse fun _ => curve? Weierstrass.p384 p384Name bytes

/-- The public key that a seed leads to. -/
def edwardsKey (seed : List UInt8) : List UInt8 :=
  let hash := ((Sha512.digest seed).take 4).flatMap fun word => toBytes 8 word.toNat
  (toBytes 32 (Edwards.publicKey (ofBytes hash.reverse))).reverse

/-- A seed, whose public key is the one given if there is one. -/
def edwards? (bytes : List UInt8) (publicKey : Option (List UInt8)) : Option (List UInt8) := do
  let seed ← (content bytesTag).whole? bytes
  if seed.length ≠ 32 then none
  let key := edwardsKey seed
  if publicKey.all (· == key) then some (keyInfo edwardsKind key) else none

/-! Keys behind their kinds. -/

/-- A key behind its kind, and the public key that comes with it. -/
structure Wrapped where
  kind : List UInt8
  key : List UInt8
  publicKey : Option (List UInt8)

def wrapped : Reader Wrapped := sequence do
  let version ← small
  let kind ← content sequenceTag
  let key ← content bytesTag
  discard (content? (numbered 0))
  match version with
  | 0 => pure ⟨kind, key, none⟩
  | 1 =>
    let publicKey ← if ← comes (numbered 1) then within (numbered 1) (bits bitsTag) else bits 0x81
    pure ⟨kind, key, some publicKey⟩
  | _ => failure

/-- A key of any kind behind its kind. -/
def wrapped? (bytes : List UInt8) : Option (List UInt8) := do
  let ⟨kind, key, publicKey⟩ ← wrapped.whole? bytes
  if kind = edwardsKind then edwards? key publicKey
  else if publicKey.isSome then none
  else if kind = primeKind then prime? key
  else if kind = curveKind p256Name then curve? Weierstrass.p256 p256Name key
  else if kind = curveKind p384Name then curve? Weierstrass.p384 p384Name key
  else none

end BeanBridge.PrivateKey
