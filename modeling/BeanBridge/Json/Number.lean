import BeanBridge.Json.Basic

/-! JSON numbers.  A whole number that fits 64 bits is exact.  Any other number is a double, found
in two roundings: its leading digits, as many as fit 64 bits, are rounded first, and then their
product or quotient with a power of ten. -/

namespace BeanBridge.Json

def isDigit (c : Char) : Bool := '0' ≤ c && c ≤ '9'

/-- Takes digits as long as the number they spell stays below `2 ^ 64`; `taken` counts them. -/
def takeDigits (value taken : Nat) : List Char → Nat × Nat × List Char
  | [] => (value, taken, [])
  | c :: text =>
    let next := value * 10 + (c.toNat - 48)
    if isDigit c ∧ next < 2 ^ 64 then takeDigits next (taken + 1) text
    else (value, taken, c :: text)

/-- The product of a double and a power of ten up to 308, rounded. -/
def timesPower (x : Double) (power : Nat) : Double :=
  let (num, den) := x.ratio
  let (tenNum, tenDen) := (Double.ofDecimal false 1 power).ratio
  Double.ofRatio false (num * tenNum) (den * tenDen)

/-- The quotient of a double and a power of ten up to 308, rounded. -/
def overPower (x : Double) (power : Nat) : Double :=
  let (num, den) := x.ratio
  let (tenNum, tenDen) := (Double.ofDecimal false 1 power).ratio
  Double.ofRatio false (num * tenDen) (den * tenNum)

/-- Divides by powers of ten up to 308 until the whole of `power` is used up. -/
def scaleDown (x : Double) (power : Nat) : Double :=
  if power ≤ 308 then overPower x power
  else if x.mantissa = 0 then x
  else scaleDown (overPower x 308) (power - 308)
termination_by power

/-- The double for `digits * 10 ^ exponent`; none beyond the finite ones. -/
def scaled? (digits : Nat) (exponent : Int) : Option Double :=
  let x := Double.ofInt digits
  if exponent < 0 then some (scaleDown x exponent.natAbs)
  else if 308 < exponent then (if digits = 0 then some x else none)
  else
    let y := timesPower x exponent.natAbs
    if y.isFinite then some y else none

/-- The double with the sign given. -/
def signed (negative : Bool) (x : Double) : Double := Double.ofFields negative x.bits.toNat

/-- An exponent part, after its letter: a sign and at least one digit.  It gives the exponent,
counted from `start`, and saturates far beyond every double. -/
def exponent? (start : Int) (text : List Char) : Option (Int × List Char) :=
  let (negative, text) := match text with
    | '-' :: text => (true, text)
    | '+' :: text => (false, text)
    | text => (false, text)
  let digits := text.takeWhile isDigit
  if digits.isEmpty then none
  else
    let size : Int := min (digits.foldl (fun n c => n * 10 + (c.toNat - 48)) 0 : Nat) (2 ^ 31)
    some (if negative then start - size else start + size, text.dropWhile isDigit)

/-- What follows the leading digits of a number that is not whole, or too long to be whole: a
fraction or none, an exponent or none. -/
def realTail? (negative : Bool) (value : Nat) (exponent : Int) (text : List Char) :
    Option (Json × List Char) := do
  let (value, exponent, text) ← match text with
    | '.' :: text =>
      let (longer, taken, rest) := takeDigits value 0 text
      let dropped := rest.takeWhile isDigit
      if taken = 0 ∧ dropped.isEmpty then none
      else some (longer, exponent - taken, rest.dropWhile isDigit)
    | text => some (value, exponent, text)
  let (exponent, text) ← match text with
    | 'e' :: text | 'E' :: text => exponent? exponent text
    | text => some (exponent, text)
  let x ← scaled? value exponent
  some (real (signed negative x), text)

/-- A number after its sign. -/
def unsigned? (negative : Bool) (text : List Char) : Option (Json × List Char) :=
  match text with
  | '0' :: text =>
    match text with
    | '.' :: _ | 'e' :: _ | 'E' :: _ => realTail? negative 0 0 text
    | c :: rest =>
      if isDigit c then none
      else some (if negative then real (signed true .zero) else whole 0, c :: rest)
    | [] => some (if negative then real (signed true .zero) else whole 0, [])
  | c :: _ =>
    if ¬ isDigit c then none
    else
      let (value, _, rest) := takeDigits 0 0 text
      let dropped := rest.takeWhile isDigit
      match dropped, rest with
      | [], '.' :: _ | [], 'e' :: _ | [], 'E' :: _ => realTail? negative value 0 rest
      | [], _ =>
        if ¬ negative then some (whole value, rest)
        else if value ≤ 2 ^ 63 then some (whole (-value), rest)
        else some (real (signed true (Double.ofInt value)), rest)
      | _, _ => realTail? negative value dropped.length (rest.dropWhile isDigit)
  | [] => none

/-- The number at the start of the text. -/
def number? : List Char → Option (Json × List Char)
  | '-' :: text => unsigned? true text
  | text => unsigned? false text

end BeanBridge.Json
