import BeanBridge.Curve.Residue
import BeanBridge.Power

/-! Curves `y² = x³ - 3x + b` modulo a prime.  A point is given by `(x z², y z³, z)`, so that no
number has to be inverted before the end; `z` is zero for the point at infinity. -/

namespace BeanBridge.Weierstrass

open Residue

/-- A curve, without `b`, which no sum of points needs. -/
structure Curve where
  prime : Nat
  /-- How many times the base gives the point at infinity. -/
  order : Nat
  /-- The bytes of a coordinate. -/
  width : Nat
  baseX : Nat
  baseY : Nat

/-- The curve of 256 bits. -/
def p256 : Curve where
  prime := 2 ^ 256 - 2 ^ 224 + 2 ^ 192 + 2 ^ 96 - 1
  order := 0xffffffff00000000ffffffffffffffffbce6faada7179e84f3b9cac2fc632551
  width := 32
  baseX := 0x6b17d1f2e12c4247f8bce6e563a440f277037d812deb33a0f4a13945d898c296
  baseY := 0x4fe342e2fe1a7f9b8ee7eb4a7c0f9e162bce33576b315ececbb6406837bf51f5

/-- The curve of 384 bits. -/
def p384 : Curve where
  prime := 2 ^ 384 - 2 ^ 128 - 2 ^ 96 + 2 ^ 32 - 1
  order := 0xffffffffffffffffffffffffffffffffffffffffffffffff <<< 192 +
    0xc7634d81f4372ddf581a0db248b0a77aecec196accc52973
  width := 48
  baseX := 0xaa87ca22be8b05378eb1c71ef320ad746e1d3b628ba79b98 <<< 192 +
    0x59f741e082542a385502f25dbf55296c3a545e3872760ab7
  baseY := 0x3617de4a96262c6f5d9e98bf9292dc29f8f41dbd289a147c <<< 192 +
    0xe9da3113b5f0b8c00a60b1ce1d7e819d7a431d7c90ea0e5f

structure Point where
  x : Nat
  y : Nat
  z : Nat

namespace Point

def infinity : Point := ⟨1, 1, 0⟩

/-- Twice a point. -/
def double (prime : Nat) (p : Point) : Point :=
  let square := p.y * p.y % prime
  let side := 4 * p.x * square % prime
  let zz := p.z * p.z % prime
  let slope := 3 * sub prime p.x zz * (p.x + zz) % prime
  let x := sub prime (slope * slope % prime) (2 * side % prime)
  ⟨x, sub prime (slope * sub prime side x % prime) (8 * square * square % prime),
    2 * p.y * p.z % prime⟩

/-- The sum of two points. -/
def add (prime : Nat) (p q : Point) : Point :=
  if p.z = 0 then q
  else if q.z = 0 then p
  else
    let pzz := p.z * p.z % prime
    let qzz := q.z * q.z % prime
    let u := p.x * qzz % prime
    let s := p.y * q.z * qzz % prime
    let h := sub prime (q.x * pzz % prime) u
    let r := sub prime (q.y * p.z * pzz % prime) s
    if h = 0 then if r = 0 then p.double prime else infinity
    else
      let hh := h * h % prime
      let hhh := h * hh % prime
      let v := u * hh % prime
      let x := sub prime (r * r % prime) ((hhh + 2 * v) % prime)
      ⟨x, sub prime (r * sub prime v x % prime) (s * hhh % prime), p.z * q.z * h % prime⟩

/-- The sum of `n` times a point. -/
def times (prime : Nat) (p : Point) (n : Nat) : Point :=
  if n = 0 then infinity
  else
    let half := (times prime p (n / 2)).double prime
    if n % 2 = 0 then half else half.add prime p
termination_by n
decreasing_by omega

/-- The coordinates of a point. -/
def coordinates (prime : Nat) (p : Point) : Nat × Nat :=
  let inverse := inverse prime p.z
  let square := inverse * inverse % prime
  (p.x * square % prime, p.y * square * inverse % prime)

end Point

/-- The point that a secret number leads to. -/
def Curve.publicPoint (curve : Curve) (secret : Nat) : Nat × Nat :=
  (Point.times curve.prime ⟨curve.baseX, curve.baseY, 1⟩ secret).coordinates curve.prime

end BeanBridge.Weierstrass
