import BeanBridge.Double.Rounding

/-! A number with a fixed count of decimal places. -/

namespace BeanBridge

namespace Double

/-- The number `x` with `places` digits behind the point, rounded from its exact value, a half going
to the even digit.  The sign of a number that rounds to zero stays. -/
def fixed (places : Nat) (x : Double) : String :=
  if x.isNaN then "NaN"
  else
    let sign := if x.isNegative then "-" else ""
    if x.isInfinite then sign ++ "inf"
    else
      let (num, den) := x.ratio
      let scaled := Nat.toDigits 10 (roundDiv (num * 10 ^ places) den)
      let padded := List.replicate (places + 1 - scaled.length) '0' ++ scaled
      let split := padded.length - places
      let point := if places = 0 then [] else ['.']
      sign ++ String.ofList (padded.take split ++ point ++ padded.drop split)

end Double

end BeanBridge
