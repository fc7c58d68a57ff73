/-!
# Dates

Dates of the proleptic Gregorian calendar. A date is counted by its day number, zero on 1 January 1970 (`Date.toDay`),
and read back from it (`Date.ofDay`): first the year, from whole cycles of 400, 100, 4 and 1 years, then the month, by
walking over the lengths of the year's months. The years 1 to 9999 are the supported ones (`supportedYear`).
-/

namespace CivilTime

/-- The leap years. -/
def isLeapYear (year : Int) : Bool :=
  year % 4 == 0 && (year % 100 != 0 || year % 400 == 0)

/-- The number of days of a month. -/
def monthLength (year : Int) (month : Nat) : Nat :=
  match month with
  | 2 => if isLeapYear year then 29 else 28
  | 4 | 6 | 9 | 11 => 30
  | _ => 31

/-- The lengths of the months of a year, from January on. -/
def monthLengths (year : Int) : List Nat :=
  (List.range' 1 12).map (monthLength year)

/-- The years that dates may have. -/
def supportedYear (year : Int) : Bool :=
  1 ≤ year && year ≤ 9999

/-- The number of days from 1 January of the year 1 to 1 January of a year. -/
def daysBeforeYear (year : Int) : Int :=
  365 * (year - 1) + (year - 1) / 4 - (year - 1) / 100 + (year - 1) / 400

/-- The number of days of months of these lengths. -/
def totalDays : List Nat → Nat
  | [] => 0
  | length :: lengths => length + totalDays lengths

/-- The number of days from 1 January to the first day of a month. -/
def daysBeforeMonth (year : Int) (month : Nat) : Nat :=
  totalDays ((monthLengths year).take (month - 1))

/-- The number of days from 1 January of the year 1 to 1 January 1970. -/
def daysBeforeEpoch : Int := 719162

/-- A calendar date. -/
structure Date where
  year : Int
  month : Nat
  day : Nat
  deriving DecidableEq, Repr

/-- The date exists and its year is supported. -/
def Date.isValid (d : Date) : Bool :=
  supportedYear d.year && 1 ≤ d.month && d.month ≤ 12 && 1 ≤ d.day && d.day ≤ monthLength d.year d.month

/-! ### Day numbers -/

/-- The day number of a date. -/
def Date.toDay (d : Date) : Int :=
  daysBeforeYear d.year - daysBeforeEpoch + daysBeforeMonth d.year d.month + (d.day - 1)

/-- The year in which a day lies, from the number of days since 1 January of the year 1. -/
def yearOfDays (days : Int) : Int :=
  let in400 := days % 146097
  let centuries := min (in400 / 36524) 3
  let in100 := in400 - 36524 * centuries
  let in4 := in100 % 1461
  let years := min (in4 / 365) 3
  400 * (days / 146097) + 100 * centuries + 4 * (in100 / 1461) + years + 1

/-- The month and the day of the month that lie `days` days after the first day of month `month`, where the lengths of
that month and of the following ones are given. -/
def monthDayOfDays : (lengths : List Nat) → (month days : Nat) → Nat × Nat
  | [], month, days => (month, days + 1)
  | length :: lengths, month, days =>
    if days < length then (month, days + 1) else monthDayOfDays lengths (month + 1) (days - length)

/-- The date with a given day number. -/
def Date.ofDay (day : Int) : Date :=
  let year := yearOfDays (day + daysBeforeEpoch)
  let monthDay := monthDayOfDays (monthLengths year) 1 (day + daysBeforeEpoch - daysBeforeYear year).toNat
  ⟨year, monthDay.1, monthDay.2⟩

/-- The weekday of a day number: Monday is 1, Sunday is 7. -/
def weekdayOfDay (day : Int) : Nat :=
  ((day + 3) % 7).toNat + 1

/-- The weekday of a date: Monday is 1, Sunday is 7. -/
def Date.weekday (d : Date) : Nat :=
  weekdayOfDay d.toDay

/-! ### Months and years later -/

/-- The date with its day brought down to the length of its month where it lies beyond it. -/
def Date.clamped (d : Date) : Date :=
  { d with day := min d.day (monthLength d.year d.month) }

/-- The date a number of years and of fewer than twelve months away, of one sign or the other: the months may carry over
into the next or the previous year, and the day is brought down to the length of the month reached. There is none where
the year reached is not supported. -/
def Date.shift (d : Date) (years months : Int) : Option Date :=
  let month := d.month + months
  let reached : Date :=
    if 12 < month then ⟨d.year + years + 1, (month - 12).toNat, d.day⟩
    else if month < 1 then ⟨d.year + years - 1, (month + 12).toNat, d.day⟩
    else ⟨d.year + years, month.toNat, d.day⟩
  if supportedYear reached.year then some reached.clamped else none

/-- The date any number of months away; whole years are split off first, towards zero. -/
def Date.addMonths (d : Date) (months : Int) : Option Date :=
  d.shift (months.tdiv 12) (months.tmod 12)

/-- The date any number of years away. -/
def Date.addYears (d : Date) (years : Int) : Option Date :=
  d.shift years 0

end CivilTime
