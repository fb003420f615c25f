import BeanBridge.Double.Basic

/-! Rounding a quotient of whole numbers to the nearest 64-bit number, and what is built on it:
whole numbers and shorter floating-point numbers as 64-bit ones. -/

namespace BeanBridge

/-- The whole number nearest to `num / den`; a half goes to the even neighbour. -/
def roundDiv (num den : Nat) : Nat :=
  let floor := num / den
  let twice := 2 * (num % den)
  if twice < den then floor
  else if den < twice then floor + 1
  else floor + floor % 2

namespace Double

/-- The power of two at which `num / den` has a mantissa of 53 bits, or the least one there is. -/
def scaleOf (num den : Nat) : Int :=
  let guess : Int := max (num.log2 - den.log2 - 53) (-1074)
  let scaled := if guess < 0 then num * 2 ^ guess.natAbs / den else num / (den * 2 ^ guess.natAbs)
  if scaled < 2 ^ 53 then guess else guess + 1

/-- The number nearest to `num / den` with the given sign, a half going to the even mantissa and
what is too large to infinity.  A mantissa rounded up to `2 ^ 53` carries into the exponent, which
is right because the fields lie side by side. -/
def ofRatio (negative : Bool) (num den : Nat) : Double :=
  if num = 0 then ofFields negative 0
  else
    let scale := scaleOf num den
    let rounded :=
      if scale < 0 then roundDiv (num * 2 ^ scale.natAbs) den
      else roundDiv num (den * 2 ^ scale.natAbs)
    ofFields negative (min ((scale + 1074).toNat * 2 ^ 52 + rounded) infinityMagnitude)

/-- The number nearest to a whole number. -/
def ofInt (n : Int) : Double := ofRatio (n < 0) n.natAbs 1

/-- The number nearest to `digits * 10 ^ exponent`.  Beyond `10 ^ 400` and below `10 ^ (-400)` the
answer is infinity and zero whatever the digits, so no power is computed there. -/
def ofDecimal (negative : Bool) (digits : Nat) (exponent : Int) : Double :=
  let size : Int := exponent + (Nat.toDigits 10 digits).length
  if digits = 0 then ofFields negative 0
  else if 400 < size then ofFields negative infinityMagnitude
  else if size < -400 then ofFields negative 0
  else if exponent < 0 then ofRatio negative digits (10 ^ exponent.natAbs)
  else ofRatio negative (digits * 10 ^ exponent.natAbs) 1

/-- The 64-bit number with the value of a 32-bit one.  What is not a number keeps its fraction, made
quiet. -/
def ofSingle (single : UInt32) : Double :=
  let bits := single.toNat
  let negative := decide (2 ^ 31 ≤ bits)
  let field := bits / 2 ^ 23 % 2 ^ 8
  let fraction := bits % 2 ^ 23
  if field = 255 then
    let quiet := if fraction = 0 then 0 else (fraction ||| 2 ^ 22) * 2 ^ 29
    ofFields negative (infinityMagnitude + quiet)
  else if field = 0 then ofRatio negative fraction (2 ^ 149)
  else if field < 150 then ofRatio negative (fraction + 2 ^ 23) (2 ^ (150 - field))
  else ofRatio negative ((fraction + 2 ^ 23) * 2 ^ (field - 150)) 1

end Double

end BeanBridge
