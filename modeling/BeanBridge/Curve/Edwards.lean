import BeanBridge.Curve.Residue
import BeanBridge.Power

/-! The curve `y² - x² = 1 + d x² y²` modulo `2²⁵⁵ - 19`.  A point is given by
`(x z, y z, z, x y z)`, so that no number has to be inverted before the end. -/

namespace BeanBridge.Edwards

open Residue

def prime : Nat := 2 ^ 255 - 19

def d : Nat := (prime - 121665) * inverse prime 121666 % prime

structure Point where
  x : Nat
  y : Nat
  z : Nat
  t : Nat

namespace Point

def zero : Point := ⟨0, 1, 1, 0⟩

def base : Point :=
  let x := 0x216936d3cd6e53fec0a4e231fdd6dc5c692cc7609525a7b2c9562d608f25d51a
  let y := 4 * inverse prime 5 % prime
  ⟨x, y, 1, x * y % prime⟩

/-- The sum of two points. -/
def add (p q : Point) : Point :=
  let a := sub prime p.y p.x * sub prime q.y q.x % prime
  let b := (p.y + p.x) * (q.y + q.x) % prime
  let c := 2 * p.t * d * q.t % prime
  let e := 2 * p.z * q.z % prime
  let f := sub prime b a
  let g := sub prime e c
  let h := (e + c) % prime
  let i := (b + a) % prime
  ⟨f * g % prime, h * i % prime, g * h % prime, f * i % prime⟩

/-- The sum of `n` times a point. -/
def times (p : Point) (n : Nat) : Point :=
  if n = 0 then zero
  else
    let half := times p (n / 2)
    let twice := half.add half
    if n % 2 = 0 then twice else twice.add p
termination_by n
decreasing_by omega

/-- A point as a number: its `y`, and the lowest bit of its `x`. -/
def toNat (p : Point) : Nat :=
  let inverse := inverse prime p.z
  p.y * inverse % prime + 2 ^ 255 * (p.x * inverse % prime % 2)

end Point

/-- The secret number that a hash of the seed gives. -/
def clamp (n : Nat) : Nat := n % 2 ^ 254 / 8 * 8 + 2 ^ 254

/-- The public key, as a number, that a hash of the seed leads to. -/
def publicKey (hash : Nat) : Nat := (Point.base.times (clamp hash)).toNat

end BeanBridge.Edwards
