import BeanBridge.Double.Rounding

/-! The shortest decimal that reads back as a given number, and the two ways it is written:
positionally for people, and with an exponent for large and small numbers in JSON. -/

namespace BeanBridge

/-- The decimal `digits * 10 ^ exponent`. -/
structure Decimal where
  digits : Nat
  exponent : Int
  deriving DecidableEq

namespace Double

/-- Whether the decimal `digits * 10 ^ exponent` rounds to `x`, which is finite and not zero: it
lies between the midpoints to the neighbours of `x`, and may be a midpoint if the mantissa is even.
The lower neighbour is half as far where the exponent changes. -/
def readsAs (x : Double) (decimal : Decimal) : Bool :=
  let near := if x.fraction = 0 ∧ 1 < x.exponentField then 1 else 2
  let low := 4 * x.mantissa - near
  let high := 4 * x.mantissa + 2
  -- all three in units of `2 ^ (exponent - 2)`
  let power := x.exponent - 2
  let two := 2 ^ power.natAbs
  let ten := 10 ^ decimal.exponent.natAbs
  let value := (if decimal.exponent < 0 then decimal.digits else decimal.digits * ten) *
    (if power < 0 then two else 1)
  let unit := (if decimal.exponent < 0 then ten else 1) * (if power < 0 then 1 else two)
  if x.mantissa % 2 = 0 then low * unit ≤ value && value ≤ high * unit
  else low * unit < value && value < high * unit

/-- The power of ten just above the size of `x`, which is finite and not zero. -/
def magnitude (x : Double) : Int :=
  let (num, den) := x.ratio
  let guess : Int := (num.log2 - den.log2) * 1233 / 4096
  let below (e : Int) : Bool :=
    if e < 0 then num * 10 ^ e.natAbs < den else num < den * 10 ^ e.natAbs
  (([guess - 1, guess, guess + 1, guess + 2].find? below).getD (guess + 3))

/-- The two decimals next to `x` on the grid of `10 ^ unit`, at and above its size. -/
def neighbours (x : Double) (unit : Int) : Decimal × Decimal :=
  let (num, den) := x.ratio
  let floor := if unit < 0 then num * 10 ^ unit.natAbs / den else num / (den * 10 ^ unit.natAbs)
  (⟨floor, unit⟩, ⟨floor + 1, unit⟩)

/-- How far the lower of the two neighbours of `x` on a grid is, compared with the upper one. -/
def compareDistances (x : Double) (lower : Decimal) : Ordering :=
  let (num, den) := x.ratio
  let ten := 10 ^ lower.exponent.natAbs
  let (num, den) := if lower.exponent < 0 then (num * ten, den) else (num, den * ten)
  compare (2 * num) ((2 * lower.digits + 1) * den)

/-- Which of two equally near decimals is taken. -/
inductive Tie where
  | up
  | even

/-- The decimal for `x` on the grid of `10 ^ unit`, if one reads back: of two the nearer. -/
def onGrid? (tie : Tie) (x : Double) (unit : Int) : Option Decimal :=
  let (lower, upper) := x.neighbours unit
  match x.readsAs lower, x.readsAs upper with
  | true, true => match x.compareDistances lower, tie with
    | .lt, _ => some lower
    | .gt, _ | .eq, .up => some upper
    | .eq, .even => some (if lower.digits % 2 = 0 then lower else upper)
  | true, false => some lower
  | false, true => some upper
  | false, false => none

/-- The shortest decimal that reads back as `x`, which is finite and not zero: the first hit on the
grids with 1, 2, … 17 digits. -/
def shortest (tie : Tie) (x : Double) : Decimal :=
  let top := x.magnitude
  let hit := (List.range 17).findSome? fun (n : Nat) => x.onGrid? tie (top - (n + 1 : Int))
  hit.getD ⟨x.mantissa, x.exponent⟩

end Double

namespace Decimal

/-- The same decimal without zeros at the end of its digits. -/
def trim (d : Decimal) : Decimal :=
  if h : d.digits = 0 ∨ d.digits % 10 ≠ 0 then d
  else trim ⟨d.digits / 10, d.exponent + 1⟩
termination_by d.digits
decreasing_by omega

/-- The digits with the point where it belongs and no exponent. -/
def positional (d : Decimal) : String :=
  let digits := Nat.toDigits 10 d.digits
  if 0 ≤ d.exponent then String.ofList (digits ++ List.replicate d.exponent.natAbs '0')
  else
    let places := d.exponent.natAbs
    let padded := List.replicate (places + 1 - digits.length) '0' ++ digits
    let split := padded.length - places
    String.ofList (padded.take split ++ '.' :: padded.drop split)

/-- One digit before the point and the others behind it, with the power of ten. -/
def scientific (d : Decimal) : String :=
  let digits := Nat.toDigits 10 d.digits
  let power : Int := d.exponent + digits.length - 1
  let mantissa := match digits with
    | [] | [_] => digits
    | first :: rest => first :: '.' :: rest
  String.ofList mantissa ++ "e" ++ toString power

end Decimal

namespace Double

/-- The number for people: the shortest digits, never an exponent, and no point for a whole number.
-/
def display (x : Double) : String :=
  if x.isNaN then "NaN"
  else
    let sign := if x.isNegative then "-" else ""
    if x.isInfinite then sign ++ "inf"
    else if x.mantissa = 0 then sign ++ "0"
    else sign ++ (x.shortest .up).trim.positional

/-- The number in JSON: the shortest digits with a point or an exponent, which is written for sizes
from `10 ^ 16` on and below `10 ^ (-5)`. -/
def json (x : Double) : String :=
  if !x.isFinite then "null"
  else
    let sign := if x.isNegative then "-" else ""
    if x.mantissa = 0 then sign ++ "0.0"
    else
      let d := (x.shortest .even).trim
      let top : Int := d.exponent + (Nat.toDigits 10 d.digits).length
      if -5 < top ∧ top ≤ 16 then
        sign ++ d.positional ++ (if 0 ≤ d.exponent then ".0" else "")
      else sign ++ d.scientific

end Double

end BeanBridge
