import CivilTime.Calendar.Date

/-!
# Local times

What calendar and clock on the wall show, to the millisecond, is one number: the milliseconds since midnight of
1 January 1970 on that wall (`LocalTime.millis`). Date and time of day are read off it by division, so that adding a
duration is addition, and `LocalTime.of` puts a date and a time of day together.
-/

namespace CivilTime

/-- The milliseconds of a day. -/
def millisPerDay : Int := 86400000

/-- A reading of calendar and clock. -/
structure LocalTime where
  /-- Milliseconds since the reading 1970-01-01 00:00. -/
  millis : Int
  deriving DecidableEq, Repr

namespace LocalTime

/-- The time on a date, hours and smaller units after midnight. -/
def of (date : Date) (hour minute second milli : Nat) : LocalTime :=
  ⟨date.toDay * millisPerDay + 3600000 * hour + 60000 * minute + 1000 * second + milli⟩

/-- The day number of the date. -/
def day (t : LocalTime) : Int := t.millis / millisPerDay

/-- The date. -/
def date (t : LocalTime) : Date := Date.ofDay t.day

/-- The milliseconds since midnight. -/
def milliOfDay (t : LocalTime) : Nat := (t.millis % millisPerDay).toNat

/-- The hour of the day. -/
def hour (t : LocalTime) : Nat := t.milliOfDay / 3600000

/-- The minute of the hour. -/
def minute (t : LocalTime) : Nat := t.milliOfDay / 60000 % 60

/-- The second of the minute. -/
def second (t : LocalTime) : Nat := t.milliOfDay / 1000 % 60

/-- The millisecond of the second. -/
def milli (t : LocalTime) : Nat := t.milliOfDay % 1000

/-- The whole seconds since the reading 1970-01-01 00:00. -/
def seconds (t : LocalTime) : Int := t.millis / 1000

/-- The time a duration in milliseconds later. -/
def plus (t : LocalTime) (millis : Int) : LocalTime := ⟨t.millis + millis⟩

/-- The same time of day on another date. -/
def onDate (t : LocalTime) (date : Date) : LocalTime :=
  ⟨date.toDay * millisPerDay + t.milliOfDay⟩

/-- The time lies in the supported years 1 to 9999. -/
def isSupported (t : LocalTime) : Bool :=
  -62135596800000 ≤ t.millis && t.millis < 253402300800000

end LocalTime

end CivilTime
