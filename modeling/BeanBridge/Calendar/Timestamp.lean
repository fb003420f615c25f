import BeanBridge.Calendar.Instant
import BeanBridge.Power

/-! Timestamps of the internet profile, such as `2021-01-05T15:04:05.25+01:00`: a date of ten
characters, a `T` or a blank, a time with seconds and perhaps a fraction, and an offset from UTC. -/

namespace BeanBridge.Calendar

/-- The value of a decimal digit. -/
def digit? (c : Char) : Option Nat :=
  if '0' ≤ c ∧ c ≤ '9' then some (c.toNat - 48) else none

/-- The number spelled by the next `count` characters, all digits. -/
def digits? : (count : Nat) → (value : Nat) → List Char → Option (Nat × List Char)
  | 0, value, text => some (value, text)
  | _ + 1, _, [] => none
  | count + 1, value, c :: text => do digits? count (value * 10 + (← digit? c)) text

/-- The rest of the text after the character `c`. -/
def expect? (c : Char) : List Char → Option (List Char)
  | [] => none
  | d :: text => if d = c then some text else none

/-- Nanoseconds from the digits of a fraction; digits after the ninth are dropped. -/
def fractionNanos (digits : List Char) : Nat :=
  let kept := digits.take 9
  kept.foldl (fun n c => n * 10 + (c.toNat - 48)) 0 * 10 ^ (9 - kept.length)

/-- The fraction of a second, in nanoseconds, if a point follows; at least one digit goes with it.
-/
def fraction? : List Char → Option (Nat × List Char)
  | '.' :: text =>
    let digits := text.takeWhile fun c => (digit? c).isSome
    if digits.isEmpty then none else some (fractionNanos digits, text.drop digits.length)
  | text => some (0, text)

/-- The offset from UTC in seconds: `Z`, or a sign, hours up to 23 and minutes up to 59.  A minus
may be the typographic one. -/
def offset? : List Char → Option (Int × List Char)
  | 'Z' :: text | 'z' :: text => some (0, text)
  | sign :: text => do
    let factor : Int ← match sign with
      | '+' => some 1
      | '-' | '\u2212' => some (-1)
      | _ => none
    let (hours, text) ← digits? 2 0 text
    let text ← expect? ':' text
    let (minutes, text) ← digits? 2 0 text
    if hours ≤ 23 ∧ minutes ≤ 59 then some (factor * (hours * 3600 + minutes * 60), text) else none
  | [] => none

/-- The instant of a timestamp.  Second 60 is the leap second after second 59. -/
def instant? (text : String) : Option Instant := do
  let (year, rest) ← digits? 4 0 text.toList
  let rest ← expect? '-' rest
  let (month, rest) ← digits? 2 0 rest
  let rest ← expect? '-' rest
  let (day, rest) ← digits? 2 0 rest
  let rest ← match rest with
    | 'T' :: rest | 't' :: rest | ' ' :: rest => some rest
    | _ => none
  let (hour, rest) ← digits? 2 0 rest
  let rest ← expect? ':' rest
  let (minute, rest) ← digits? 2 0 rest
  let rest ← expect? ':' rest
  let (second, rest) ← digits? 2 0 rest
  let (nanos, rest) ← fraction? rest
  let (offset, rest) ← offset? rest
  let date : Civil := ⟨year, month, day⟩
  if date.isValid ∧ hour ≤ 23 ∧ minute ≤ 59 ∧ second ≤ 60 ∧ rest = [] then
    let shown := min second 59
    let leap := if second = 60 then 1000000000 else 0
    some ⟨date.toDays * 86400 + (hour * 3600 + minute * 60 + shown) - offset, nanos + leap⟩
  else none

end BeanBridge.Calendar
