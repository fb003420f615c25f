import BeanBridge.Calendar.Civil

/-! Points in time, to the nanosecond and with leap seconds, and the text that reports show for
them, such as `Jan 5, 2021 3:04:05 PM`. -/

namespace BeanBridge

/-- A point in time: whole seconds from 1970-01-01T00:00:00 UTC and nanoseconds after them.  From
`10 ^ 9` nanoseconds on it lies in the leap second that follows the second given. -/
structure Instant where
  seconds : Int
  nanos : Nat
  deriving DecidableEq

namespace Calendar

/-- The number `n` with zeros in front, up to `width` digits. -/
def padded (width n : Nat) : List Char :=
  let digits := Nat.toDigits 10 n
  List.replicate (width - digits.length) '0' ++ digits

/-- A year of at least four digits, with a sign before the year 0 and after the year 9999. -/
def yearText (year : Int) : List Char :=
  if 0 ≤ year ∧ year ≤ 9999 then padded 4 year.toNat
  else (if year < 0 then '-' else '+') :: padded 4 year.natAbs

/-- The abbreviated name of a month. -/
def monthName : Nat → String
  | 1 => "Jan" | 2 => "Feb" | 3 => "Mar" | 4 => "Apr" | 5 => "May" | 6 => "Jun"
  | 7 => "Jul" | 8 => "Aug" | 9 => "Sep" | 10 => "Oct" | 11 => "Nov" | _ => "Dec"

/-- The hour on a clock of twelve hours, which shows 12 at noon and at midnight. -/
def clockHour (hour : Nat) : Nat := if hour % 12 = 0 then 12 else hour % 12

end Calendar

open Calendar

namespace Instant

def date (t : Instant) : Civil := Civil.ofDays (t.seconds / 86400)

/-- Seconds since midnight, the leap second not counted. -/
def secondOfDay (t : Instant) : Nat := (t.seconds % 86400).toNat

/-- The second a clock shows: 60 in a leap second. -/
def second (t : Instant) : Nat := t.secondOfDay % 60 + t.nanos / 1000000000

/-- The instant in the layout of reports: month, day, year, hour of twelve, minute, second and
half of the day. -/
def text (t : Instant) : String :=
  let date := t.date
  let hour := t.secondOfDay / 3600
  let minute := t.secondOfDay / 60 % 60
  monthName date.month ++ " " ++ toString date.day ++ ", " ++ String.ofList (yearText date.year) ++
    " " ++ toString (clockHour hour) ++ ":" ++ String.ofList (padded 2 minute) ++ ":" ++
    String.ofList (padded 2 t.second) ++ (if hour < 12 then " AM" else " PM")

end Instant

end BeanBridge
