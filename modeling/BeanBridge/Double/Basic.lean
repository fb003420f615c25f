import BeanBridge.Power

/-! Binary floating-point numbers of 64 bits, given by their bits: a sign, an exponent of 11 bits
and a fraction of 52.  A finite number is `mantissa * 2 ^ exponent` with its sign. -/

namespace BeanBridge

/-- A 64-bit floating-point number. Two of them are equal when their bits are. -/
structure Double where
  bits : UInt64
  deriving DecidableEq

namespace Double

/-- The sign bit is set, for zeros and for what is not a number too. -/
def isNegative (x : Double) : Bool := 2 ^ 63 ≤ x.bits.toNat

/-- The 11 bits after the sign. -/
def exponentField (x : Double) : Nat := x.bits.toNat / 2 ^ 52 % 2 ^ 11

/-- The last 52 bits. -/
def fraction (x : Double) : Nat := x.bits.toNat % 2 ^ 52

/-- Neither infinite nor a non-number. -/
def isFinite (x : Double) : Bool := x.exponentField != 2047

def isInfinite (x : Double) : Bool := x.exponentField == 2047 && x.fraction == 0

def isNaN (x : Double) : Bool := x.exponentField == 2047 && x.fraction != 0

/-- The whole number that the power of two scales, of a finite number. -/
def mantissa (x : Double) : Nat :=
  if x.exponentField = 0 then x.fraction else x.fraction + 2 ^ 52

/-- The power of two that scales the mantissa, of a finite number. -/
def exponent (x : Double) : Int :=
  if x.exponentField = 0 then -1074 else x.exponentField - 1075

/-- The size of a finite number as a quotient of whole numbers. -/
def ratio (x : Double) : Nat × Nat :=
  if x.exponent < 0 then (x.mantissa, 2 ^ x.exponent.natAbs)
  else (x.mantissa * 2 ^ x.exponent.natAbs, 1)

/-- The number with the sign, exponent and fraction given. -/
def ofFields (negative : Bool) (magnitude : Nat) : Double :=
  ⟨.ofNat (magnitude + if negative then 2 ^ 63 else 0)⟩

def zero : Double := ⟨0⟩

/-- The least positive number, `2 ^ (-1074)`. -/
def smallest : Double := ⟨1⟩

/-- The greatest finite number, `(2 ^ 53 - 1) * 2 ^ 971`. -/
def largest : Double := ⟨0x7fefffffffffffff⟩

/-- The bits of an infinity without the sign. -/
def infinityMagnitude : Nat := 2047 * 2 ^ 52

end Double

end BeanBridge
