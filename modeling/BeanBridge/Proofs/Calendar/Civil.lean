import BeanBridge.Calendar.Civil
import Mathlib.Tactic.IntervalCases

/-! Dates and their numbers.  Four centuries of years from March fall into centuries, spans of four
years and single years, of which the last of each may be longer by a day; from these parts the year of
a day can be read off.  So every number is that of its date, and the date is one of the calendar. -/

namespace BeanBridge.Calendar

/-- A day of four centuries: its century, the span of four years and the year in this, and the day of
the year, counted from March. -/
structure DayParts (dayOfEra : Int) where
  century : Int
  span : Int
  year : Int
  day : Int
  century_bounds : 0 ≤ century ∧ century ≤ 3
  span_bounds : 0 ≤ span ∧ span ≤ 24
  year_bounds : 0 ≤ year ∧ year ≤ 3
  day_bounds : 0 ≤ day ∧ day ≤ 365
  /-- A leap day ends four years, but a century only if it is the last. -/
  leap : day = 365 → year = 3 ∧ (span < 24 ∨ century = 3)
  sum : dayOfEra = 36524 * century + 1461 * span + 365 * year + day

/-- The number of days before a year counted from March. -/
def daysBefore (yearOfEra : Int) : Int := 365 * yearOfEra + yearOfEra / 4 - yearOfEra / 100

/-- The year that a day of four centuries lies in. -/
def yearOf (dayOfEra : Int) : Int :=
  (dayOfEra - dayOfEra / 1460 + dayOfEra / 36524 - dayOfEra / 146096) / 365

def dayParts (dayOfEra : Int) (h : 0 ≤ dayOfEra ∧ dayOfEra < 146097) : DayParts dayOfEra :=
  let century := min (dayOfEra / 36524) 3
  let inCentury := dayOfEra - 36524 * century
  let span := inCentury / 1461
  let inSpan := inCentury % 1461
  let year := min (inSpan / 365) 3
  { century, span, year
    day := inSpan - 365 * year
    century_bounds := by omega
    span_bounds := by omega
    year_bounds := by omega
    day_bounds := by omega
    leap := by omega
    sum := by omega }

namespace DayParts

variable {dayOfEra : Int} (parts : DayParts dayOfEra)

/-- The year of the four centuries. -/
def yearOfEra : Int := 100 * parts.century + 4 * parts.span + parts.year

theorem yearOfEra_bounds : 0 ≤ parts.yearOfEra ∧ parts.yearOfEra < 400 := by
  obtain ⟨century, span, year, day, hCentury, hSpan, hYear⟩ := parts
  simp only [yearOfEra]
  omega

theorem daysBefore_yearOfEra : daysBefore parts.yearOfEra = dayOfEra - parts.day := by
  obtain ⟨century, span, year, day, hCentury, hSpan, hYear, hDay, hLeap, rfl⟩ := parts
  simp only [daysBefore, yearOfEra]
  have hFour : (100 * century + 4 * span + year) / 4 = 25 * century + span := by omega
  have hHundred : (100 * century + 4 * span + year) / 100 = century := by omega
  omega

/-- The quotients take away the leap days before the day, and so leave years of 365 days. -/
theorem yearOf_eq : yearOf dayOfEra = parts.yearOfEra := by
  obtain ⟨century, span, year, day, hCentury, hSpan, hYear, hDay, hLeap, rfl⟩ := parts
  simp only [yearOf, yearOfEra]
  generalize hDays : 36524 * century + 1461 * span + 365 * year + day = days
  have hCenturies : days / 36524 - days / 146096 = century := by
    -- The last day of all is the one day that both quotients count.
    rcases (by omega : days < 146096 ∨ days = 146096 ∧ century = 3) with hDays | ⟨rfl, rfl⟩
    · have hLast : days / 146096 = 0 := by omega
      have hBelow : days < 36524 * (century + 1) := by omega
      have hAbove : 36524 * century ≤ days := by omega
      omega
    · decide
  have hSpans : days / 1460 =
      25 * century + span + (24 * century + span + 365 * year + day) / 1460 := by omega
  have hLate : (24 * century + span + 365 * year + day) / 1460 = 0 ∧ day ≤ 364 ∨
      (24 * century + span + 365 * year + day) / 1460 = 1 ∧ 1 ≤ day := by omega
  omega

end DayParts

/-- The days before a month, counted from March. -/
def daysBeforeMonth (monthFromMarch : Int) : Int := (153 * monthFromMarch + 2) / 5

/-- The month, counted from March, that a day of the year lies in. -/
def monthFromMarch (dayOfYear : Int) : Int := (5 * dayOfYear + 2) / 153

theorem monthFromMarch_bounds {day : Int} (h : 0 ≤ day ∧ day ≤ 365) :
    0 ≤ monthFromMarch day ∧ monthFromMarch day ≤ 11 ∧
      daysBeforeMonth (monthFromMarch day) ≤ day ∧
      day < daysBeforeMonth (monthFromMarch day + 1) := by
  simp only [monthFromMarch, daysBeforeMonth]
  omega

/-- The date of a day, told by its parts. -/
theorem ofDays_eq {days : Int} (parts : DayParts ((days + 719468) % 146097)) :
    Civil.ofDays days =
      let fromMarch := monthFromMarch parts.day
      let month := if fromMarch < 10 then fromMarch + 3 else fromMarch - 9
      ⟨parts.yearOfEra + (days + 719468) / 146097 * 400 + (if month ≤ 2 then 1 else 0),
        month.toNat, (parts.day - daysBeforeMonth fromMarch + 1).toNat⟩ := by
  have hYear := parts.yearOf_eq
  have hDay : (days + 719468) % 146097 - daysBefore parts.yearOfEra = parts.day := by
    rw [parts.daysBefore_yearOfEra]
    omega
  unfold yearOf at hYear
  unfold daysBefore at hDay
  dsimp only [Civil.ofDays]
  rw [hYear, hDay]
  rfl

/-- The month of a date and the year counted from March, told by the months since March. -/
theorem toDays_eq {fromMarch yearOfEra era dayOfMonth : Int} (hMonth : 0 ≤ fromMarch ∧ fromMarch ≤ 11)
    (hYear : 0 ≤ yearOfEra ∧ yearOfEra < 400) (hDay : 1 ≤ dayOfMonth) :
    let month := if fromMarch < 10 then fromMarch + 3 else fromMarch - 9
    Civil.toDays ⟨yearOfEra + era * 400 + (if month ≤ 2 then 1 else 0), month.toNat,
        dayOfMonth.toNat⟩ =
      era * 146097 + (daysBefore yearOfEra + daysBeforeMonth fromMarch + (dayOfMonth - 1)) -
        719468 := by
  intro month
  have hEra : (yearOfEra + era * 400) / 400 = era := by omega
  have hOfEra : (yearOfEra + era * 400) % 400 = yearOfEra := by omega
  have hToNat : (dayOfMonth.toNat : Int) = dayOfMonth := by omega
  have hFromMarch : ((month.toNat : Int) + 9) % 12 = fromMarch := by
    show (((if fromMarch < 10 then fromMarch + 3 else fromMarch - 9).toNat : Int) + 9) % 12 = _
    split <;> omega
  have hShift : (if month.toNat ≤ 2 then
      yearOfEra + era * 400 + (if month ≤ 2 then 1 else 0) - 1
      else yearOfEra + era * 400 + (if month ≤ 2 then 1 else 0)) = yearOfEra + era * 400 := by
    by_cases hEarly : month ≤ 2
    · rw [if_pos hEarly, if_pos (by omega)]
      omega
    · rw [if_neg hEarly, if_neg (by omega)]
      omega
  unfold Civil.toDays daysBefore daysBeforeMonth
  simp only [hShift, hEra, hOfEra, hFromMarch, hToNat]
  omega

theorem toDays_ofDays (days : Int) : (Civil.ofDays days).toDays = days := by
  have hEra : 0 ≤ (days + 719468) % 146097 ∧ (days + 719468) % 146097 < 146097 := by omega
  let parts := dayParts _ hEra
  obtain ⟨hFirst, hLast, hBefore, -⟩ := monthFromMarch_bounds parts.day_bounds
  rw [ofDays_eq parts, toDays_eq ⟨hFirst, hLast⟩ parts.yearOfEra_bounds (by omega),
    parts.daysBefore_yearOfEra]
  omega

/-- A year that ends with a leap day in February is a leap year. -/
theorem DayParts.isLeap_of_last {dayOfEra era : Int} (parts : DayParts dayOfEra)
    (h : parts.day = 365) : isLeap (parts.yearOfEra + era * 400 + 1) = true := by
  obtain ⟨hYear, hKept⟩ := parts.leap h
  have hCentury := parts.century_bounds
  have hSpan := parts.span_bounds
  simp only [isLeap, yearOfEra, Bool.and_eq_true, Bool.or_eq_true, beq_iff_eq, bne_iff_ne]
  omega

/-- Months other than February have as many days as lie before the next one. -/
theorem daysInMonth_eq (year fromMarch : Int) (h : 0 ≤ fromMarch ∧ fromMarch ≤ 10) :
    (daysInMonth year (if fromMarch < 10 then fromMarch + 3 else fromMarch - 9).toNat : Int) =
      daysBeforeMonth (fromMarch + 1) - daysBeforeMonth fromMarch := by
  obtain ⟨hFirst, hLast⟩ := h
  interval_cases fromMarch <;> rfl

theorem isValid_ofDays (days : Int) : (Civil.ofDays days).isValid = true := by
  have hEra : 0 ≤ (days + 719468) % 146097 ∧ (days + 719468) % 146097 < 146097 := by omega
  let parts := dayParts _ hEra
  obtain ⟨hFirst, hLast, hBefore, hNext⟩ := monthFromMarch_bounds parts.day_bounds
  rw [ofDays_eq parts]
  generalize monthFromMarch parts.day = fromMarch at *
  simp only [Civil.isValid, Bool.and_eq_true, decide_eq_true_eq]
  refine ⟨⟨⟨by split <;> omega, by split <;> omega⟩, by omega⟩, ?_⟩
  by_cases hFebruary : fromMarch = 11
  · subst hFebruary
    have hDay := parts.day_bounds.2
    have hDays : daysBeforeMonth 11 = 337 := rfl
    show (parts.day - daysBeforeMonth 11 + 1).toNat ≤
      if isLeap (parts.yearOfEra + (days + 719468) / 146097 * 400 + 1) then 29 else 28
    by_cases hEnd : parts.day = 365
    · rw [if_pos (parts.isLeap_of_last hEnd)]
      omega
    · split <;> omega
  · have hLength := daysInMonth_eq (parts.yearOfEra + (days + 719468) / 146097 * 400 +
      if (if fromMarch < 10 then fromMarch + 3 else fromMarch - 9) ≤ 2 then 1 else 0)
      fromMarch ⟨hFirst, by omega⟩
    omega

end BeanBridge.Calendar
