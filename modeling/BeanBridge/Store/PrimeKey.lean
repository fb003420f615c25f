import BeanBridge.Store.Der

/-! Private keys of two primes.  The numbers of a key depend on each other, and a key is used only
when they agree. -/

namespace BeanBridge

open Der

/-- A private key of two primes, by the bytes of its numbers. -/
structure PrimeKey where
  modulus : List UInt8
  exponent : List UInt8
  secret : List UInt8
  first : List UInt8
  second : List UInt8
  firstExponent : List UInt8
  secondExponent : List UInt8
  coefficient : List UInt8

namespace PrimeKey

def reader : Reader PrimeKey := sequence do
  guard ((← small) = 0)
  pure {
    modulus := ← unsigned
    exponent := ← unsigned
    secret := ← unsigned
    first := ← unsigned
    second := ← unsigned
    firstExponent := ← unsigned
    secondExponent := ← unsigned
    coefficient := ← unsigned }

/-- How many bits a number has. -/
def bitLength (n : Nat) : Nat := if n = 0 then 0 else n.log2 + 1

/-- The exponent is odd, neither small nor great. -/
def exponentFits (key : PrimeKey) : Bool :=
  let e := ofBytes key.exponent
  2 ^ 16 < e && e < 2 ^ 33 && e % 2 == 1

/-- The numbers of the key agree, as far as can be told without much work. -/
def isSound (key : PrimeKey) : Bool :=
  let n := ofBytes key.modulus
  let d := ofBytes key.secret
  let p := ofBytes key.first
  let q := ofBytes key.second
  let dp := ofBytes key.firstExponent
  let dq := ofBytes key.secondExponent
  let half := (bitLength n + 1) / 2
  n % 2 == 1 && 2040 < bitLength n && bitLength n ≤ 4096 && key.exponentFits &&
    p % 2 == 1 && q % 2 == 1 && bitLength p == half && bitLength q == half && half % 512 == 0 &&
    p * q % n == 0 &&
    d % 2 == 1 && half < bitLength d && d < n &&
    dp % 2 == 1 && dp < p && dq % 2 == 1 && dq < q &&
    ofBytes key.coefficient < p && ofBytes key.coefficient * q % p == 1

/-- The public part of the key. -/
def publicKey (key : PrimeKey) : List UInt8 :=
  written sequenceTag (writtenUnsigned key.modulus ++ writtenUnsigned key.exponent)

end PrimeKey

end BeanBridge
