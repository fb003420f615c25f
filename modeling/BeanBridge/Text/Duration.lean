import BeanBridge.Power

/-! Spans of time as text: in the largest unit of which there is at least one, with as many decimals
as are needed. -/

namespace BeanBridge.Text

/-- The decimals of `fraction / 10 ^ places`, without zeros at the end. -/
def decimals (places fraction : Nat) : String :=
  let digits := Nat.toDigits 10 fraction
  let padded := List.replicate (places - digits.length) '0' ++ digits
  String.ofList (padded.reverse.dropWhile (· == '0')).reverse

/-- So many nanoseconds in a unit of `10 ^ places` of them. -/
def inUnit (places : Nat) (unit : String) (nanoseconds : Nat) : String :=
  let whole := toString (nanoseconds / 10 ^ places)
  let fraction := nanoseconds % 10 ^ places
  if fraction = 0 then whole ++ unit else whole ++ "." ++ decimals places fraction ++ unit

/-- A span of so many nanoseconds. -/
def duration (nanoseconds : Nat) : String :=
  if 10 ^ 9 ≤ nanoseconds then inUnit 9 "s" nanoseconds
  else if 10 ^ 6 ≤ nanoseconds then inUnit 6 "ms" nanoseconds
  else if 10 ^ 3 ≤ nanoseconds then inUnit 3 "µs" nanoseconds
  else inUnit 0 "ns" nanoseconds

end BeanBridge.Text
