import BeanBridge.Calendar.Instant
import BeanBridge.Proofs.Calendar.Civil
import BeanBridge.Proofs.Text.Numeral
import BeanBridge.Value.Flatten

/-! The texts of instants.  A reader takes the fields of a text apart from the left, since each ends
where letters of another kind begin; the date gives the number of the day, and the hour of twelve with
the half of the day gives the hour.  So the text tells the second, and nothing finer. -/

namespace BeanBridge

namespace Calendar

/-- The number that the digits spell. -/
def number (digits : List Char) : Nat := Nat.ofDigitChars 10 digits 0

theorem number_padded (width n : Nat) : number (padded width n) = n := by
  have hZeros (k : Nat) : Nat.ofDigitChars 10 (List.replicate k '0') 0 = 0 := by
    induction k with
    | zero => rfl
    | succ k ih => rw [List.replicate_succ, Nat.ofDigitChars_cons]; exact ih
  rw [number, padded, Nat.ofDigitChars_append, hZeros, Nat.ofDigitChars_toDigits (by decide)
    (by decide)]

theorem isDigit_of_mem_padded {width n : Nat} : ∀ c ∈ padded width n, c.isDigit = true := by
  intro c hMem
  rcases List.mem_append.mp hMem with hZero | hDigit
  · rw [List.eq_of_mem_replicate hZero]
    rfl
  · exact Text.isDigit_of_mem_toDigits c hDigit

theorem padded_append_inj {width m n : Nat} {rest rest' : List Char}
    (hRest : rest.head?.any Char.isDigit = false) (hRest' : rest'.head?.any Char.isDigit = false)
    (h : padded width m ++ rest = padded width n ++ rest') : m = n ∧ rest = rest' := by
  obtain ⟨hDigits, hRests⟩ :=
    Text.append_inj_of_head isDigit_of_mem_padded isDigit_of_mem_padded hRest hRest' h
  have hNumbers := congrArg number hDigits
  rw [number_padded, number_padded] at hNumbers
  exact ⟨hNumbers, hRests⟩

/-- The year that a text shows. -/
def yearNumber : List Char → Int
  | '-' :: digits => -number digits
  | '+' :: digits => number digits
  | digits => number digits

theorem yearNumber_of_isDigit {digits : List Char} (h : ∀ c ∈ digits, c.isDigit = true) :
    yearNumber digits = number digits := by
  unfold yearNumber
  split
  · exact absurd (h '-' List.mem_cons_self) (by decide)
  · exact absurd (h '+' List.mem_cons_self) (by decide)
  · rfl

theorem yearNumber_yearText (year : Int) : yearNumber (yearText year) = year := by
  unfold yearText
  by_cases hPlain : 0 ≤ year ∧ year ≤ 9999
  · rw [if_pos hPlain, yearNumber_of_isDigit isDigit_of_mem_padded, number_padded]
    omega
  · rw [if_neg hPlain]
    by_cases hNegative : year < 0
    · rw [if_pos hNegative]
      simp only [yearNumber, number_padded]
      omega
    · rw [if_neg hNegative]
      simp only [yearNumber, number_padded]
      omega

/-- The letters of a year. -/
def isYearChar (c : Char) : Bool := c.isDigit || c == '-' || c == '+'

theorem isYearChar_of_mem_yearText {year : Int} : ∀ c ∈ yearText year, isYearChar c = true := by
  have hDigit {n : Nat} : ∀ c ∈ padded 4 n, isYearChar c = true := fun c hMem => by
    rw [isYearChar, isDigit_of_mem_padded c hMem]
    rfl
  intro c hMem
  unfold yearText at hMem
  split at hMem
  · exact hDigit c hMem
  · rcases List.mem_cons.mp hMem with rfl | hMem
    · split <;> rfl
    · exact hDigit c hMem

theorem yearText_append_inj {year year' : Int} {rest rest' : List Char}
    (hRest : rest.head?.any isYearChar = false) (hRest' : rest'.head?.any isYearChar = false)
    (h : yearText year ++ rest = yearText year' ++ rest') : year = year' ∧ rest = rest' := by
  obtain ⟨hTexts, hRests⟩ :=
    Text.append_inj_of_head isYearChar_of_mem_yearText isYearChar_of_mem_yearText hRest hRest' h
  have hYears := congrArg yearNumber hTexts
  rw [yearNumber_yearText, yearNumber_yearText] at hYears
  exact ⟨hYears, hRests⟩

theorem isAlpha_of_mem_monthName (month : Nat) :
    ∀ c ∈ (monthName month).toList, c.isAlpha = true := by
  apply List.all_eq_true.mp
  unfold monthName
  split <;> rfl

theorem monthName_inj {m n : Nat} (hm : 1 ≤ m ∧ m ≤ 12) (hn : 1 ≤ n ∧ n ≤ 12)
    (h : (monthName m).toList = (monthName n).toList) : m = n := by
  obtain ⟨hmFirst, hmLast⟩ := hm
  obtain ⟨hnFirst, hnLast⟩ := hn
  interval_cases m <;> interval_cases n <;> first | rfl | exact absurd h (by decide)

/-- The half of the day and the hour of twelve tell the hour. -/
theorem clockHour_inj {hour hour' : Nat} (hDay : hour < 24) (hDay' : hour' < 24)
    (hHalf : hour < 12 ↔ hour' < 12) (h : clockHour hour = clockHour hour') : hour = hour' := by
  unfold clockHour at h
  split at h <;> split at h <;> omega

end Calendar

open Calendar

namespace Instant

def hour (t : Instant) : Nat := t.secondOfDay / 3600

def minute (t : Instant) : Nat := t.secondOfDay / 60 % 60

/-- The half of the day. -/
def half (t : Instant) : String := if t.hour < 12 then " AM" else " PM"

theorem toList_text (t : Instant) :
    t.text.toList = (monthName t.date.month).toList ++ ' ' :: (Nat.toDigits 10 t.date.day ++
      ',' :: ' ' :: (yearText t.date.year ++ ' ' :: (Nat.toDigits 10 (clockHour t.hour) ++
        ':' :: (padded 2 t.minute ++ ':' :: (padded 2 t.second ++ t.half.toList))))) := by
  simp only [text, hour, minute, half, String.toList_append, Nat.toString_eq_ofList_toDigits,
    String.toList_ofList, List.append_assoc]
  rfl

theorem hour_lt (t : Instant) : t.hour < 24 := by
  unfold hour secondOfDay
  omega

theorem half_not_digit (t : Instant) : t.half.toList.head?.any Char.isDigit = false := by
  unfold half
  split <;> rfl

theorem half_inj {t u : Instant} (h : t.half.toList = u.half.toList) :
    t.hour < 12 ↔ u.hour < 12 := by
  unfold half at h
  by_cases hHour : t.hour < 12 <;> by_cases hHour' : u.hour < 12 <;>
    simp [hHour, hHour'] at h ⊢

theorem month_bounds (t : Instant) : 1 ≤ t.date.month ∧ t.date.month ≤ 12 := by
  have hValid := isValid_ofDays (t.seconds / 86400)
  simp only [Civil.isValid, Bool.and_eq_true, decide_eq_true_eq] at hValid
  exact hValid.1.1

theorem fields_eq_of_text_eq {t u : Instant} (h : t.text = u.text) :
    t.date = u.date ∧ t.hour = u.hour ∧ t.minute = u.minute ∧ t.second = u.second := by
  have hLetters := congrArg String.toList h
  rw [toList_text, toList_text] at hLetters
  -- The fields come off one after another, each up to the letter that ends it.
  obtain ⟨hMonth, hLetters⟩ := Text.append_inj_of_head (isAlpha_of_mem_monthName _)
    (isAlpha_of_mem_monthName _) rfl rfl hLetters
  obtain ⟨hDay, hLetters⟩ := Text.toDigits_append_inj rfl rfl (List.cons.inj hLetters).2
  obtain ⟨hYear, hLetters⟩ :=
    yearText_append_inj rfl rfl (List.cons.inj (List.cons.inj hLetters).2).2
  obtain ⟨hClock, hLetters⟩ := Text.toDigits_append_inj rfl rfl (List.cons.inj hLetters).2
  obtain ⟨hMinute, hLetters⟩ := padded_append_inj rfl rfl (List.cons.inj hLetters).2
  obtain ⟨hSecond, hHalf⟩ := padded_append_inj t.half_not_digit u.half_not_digit
    (List.cons.inj hLetters).2
  have hMonths := monthName_inj t.month_bounds u.month_bounds hMonth
  refine ⟨?_, clockHour_inj t.hour_lt u.hour_lt (half_inj hHalf) hClock, hMinute, hSecond⟩
  generalize t.date = date at *
  generalize u.date = date' at *
  cases date
  cases date'
  simp only at hYear hMonths hDay
  rw [hYear, hMonths, hDay]

/-- The text tells the minute and the second that it shows. -/
theorem text_eq_iff (t u : Instant) :
    t.text = u.text ↔ t.seconds / 60 = u.seconds / 60 ∧ t.second = u.second := by
  constructor
  · intro h
    obtain ⟨hDate, hHour, hMinute, hSecond⟩ := fields_eq_of_text_eq h
    have hDays := congrArg Civil.toDays hDate
    simp only [date, toDays_ofDays] at hDays
    unfold hour secondOfDay at hHour
    unfold minute secondOfDay at hMinute
    refine ⟨?_, hSecond⟩
    omega
  · intro ⟨hMinute, hSecond⟩
    have hDate : t.date = u.date := by
      unfold date
      congr 1
      omega
    have hOfDay : t.secondOfDay / 60 = u.secondOfDay / 60 := by
      unfold secondOfDay
      omega
    have hHour : t.hour = u.hour := by
      unfold hour
      omega
    rw [← String.toList_inj, toList_text, toList_text, hDate, minute, minute, hOfDay, hSecond, half,
      half, hHour]

/-- The nanoseconds do not go beyond a leap second, and that follows second 59 of a minute, where it is
shown as second 60.  An instant can hold a leap second behind any other second too, which is then shown
like the second that comes next; those instants are left out. -/
structure IsValid (t : Instant) : Prop where
  nanos_lt : t.nanos < 2000000000
  ends_minute : 1000000000 ≤ t.nanos → t.seconds % 60 = 59

/-- The instants lie in the same second, or in the same leap second. -/
def SameSecond (t u : Instant) : Prop :=
  t.seconds = u.seconds ∧ (1000000000 ≤ t.nanos ↔ 1000000000 ≤ u.nanos)

theorem second_eq {t : Instant} (h : t.IsValid) :
    (t.second : Int) = t.seconds % 60 + if 1000000000 ≤ t.nanos then 1 else 0 := by
  have hLt := h.nanos_lt
  unfold second secondOfDay
  split <;> omega

theorem sameSecond_iff {t u : Instant} (ht : t.IsValid) (hu : u.IsValid) :
    t.SameSecond u ↔ t.seconds / 60 = u.seconds / 60 ∧ t.second = u.second := by
  have hSecond := second_eq ht
  have hSecond' := second_eq hu
  have hEnds := ht.ends_minute
  have hEnds' := hu.ends_minute
  unfold SameSecond
  split at hSecond <;> split at hSecond' <;> omega

/-- Dates have one entry each, and the entries agree when the instants lie in the same second. -/
theorem flatten_date_eq_iff (t u : Instant) (ht : t.IsValid) (hu : u.IsValid) (name : String) :
    ∃ text text', (Value.date t).flatten name = .ok [.ofScalar name (.string text)] ∧
      (Value.date u).flatten name = .ok [.ofScalar name (.string text')] ∧
      (text = text' ↔ t.SameSecond u) := by
  refine ⟨t.text, u.text, by rw [Value.flatten, Value.flattenWithin],
    by rw [Value.flatten, Value.flattenWithin], ?_⟩
  rw [text_eq_iff, sameSecond_iff ht hu]

/-- The leap second before the year 2017 and the midnight after it. -/
theorem flatten_date_eq_iff_at_leap_second :
    let leap : Instant := ⟨1483228799, 1500000000⟩
    let midnight : Instant := ⟨1483228800, 0⟩
    leap.IsValid ∧ midnight.IsValid ∧ leap.text = "Dec 31, 2016 11:59:60 PM" ∧
      midnight.text = "Jan 1, 2017 12:00:00 AM" ∧
      ∃ text text', (Value.date leap).flatten "Boot" = .ok [.ofScalar "Boot" (.string text)] ∧
        (Value.date midnight).flatten "Boot" = .ok [.ofScalar "Boot" (.string text')] ∧
        text ≠ text' := by
  intro leap midnight
  have hLeap : leap.IsValid := ⟨by decide, fun _ => by decide⟩
  have hMidnight : midnight.IsValid := ⟨by decide, fun h => absurd h (by decide)⟩
  obtain ⟨text, text', hFirst, hSecond, hSame⟩ :=
    flatten_date_eq_iff leap midnight hLeap hMidnight "Boot"
  refine ⟨hLeap, hMidnight, by decide +kernel, by decide +kernel, text, text', hFirst, hSecond, ?_⟩
  exact fun hEqual => absurd (hSame.mp hEqual).1 (by decide)

end Instant

end BeanBridge
