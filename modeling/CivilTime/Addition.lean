import CivilTime.Error
import CivilTime.Surroundings

/-!
# Adding to timestamps

A duration of fixed length is added as a number (`addDuration`). Months and years have no fixed length: the instant is
viewed in a zone, a calendar model moves its local time, and the first pass of the local time reached is the result
(`addCalendar`). The Gregorian model keeps the time of day and brings the day down to the length of the month reached.
-/

namespace CivilTime

/-- A rule for moving local times by months and years; there may be no such time. -/
structure CalendarModel where
  addMonths : LocalTime → Int → Option LocalTime
  addYears : LocalTime → Int → Option LocalTime

namespace CalendarModel

/-- Months and years of the Gregorian calendar. -/
def gregorian : CalendarModel where
  addMonths time months := (time.date.addMonths months).map time.onDate
  addYears time years := (time.date.addYears years).map time.onDate

/-- The time a number of days later, if it lies in the supported years. -/
private def addDays (time : LocalTime) (days : Int) : Option LocalTime :=
  let later := time.plus (millisPerDay * days)
  if later.isSupported then some later else none

/-- Months of 30 days and years of 365. -/
def dayCount : CalendarModel where
  addMonths time months := addDays time (30 * months)
  addYears time years := addDays time (365 * years)

/-- The local time an amount of calendar units later. -/
def shift (model : CalendarModel) (unit : CalendarUnit) (time : LocalTime) (amount : Int) : Option LocalTime :=
  match unit with
  | .month => model.addMonths time amount
  | .year => model.addYears time amount

end CalendarModel

/-- The sum of a timestamp in a unit and a duration in another unit. -/
def addDuration (time : Int) (unit : DurationUnit) (amount : Int) (amountUnit : DurationUnit) : Int :=
  time + convertDuration amount amountUnit unit

/-- The instant an amount of calendar units later, as a zone sees it. -/
def addCalendar (model : CalendarModel) (zone : Zone) (millis amount : Int) (unit : CalendarUnit) : Except Error Int := do
  let start ← Moment.ofMillis millis zone
  match model.shift unit start.time amount with
  | some time => return (Moment.firstPass zone time).toMillis
  | none => .error (.showing amount (.unsupportedShift amount unit start))

/-- The zone that a caller names, or the system's zone; an empty name counts as none. -/
def zoneOrSystem (s : Surroundings) (zoneName : Option String) : Except Error Zone :=
  match zoneName.filter (· != "") with
  | some name => resolveZone name s.database
  | none => s.zone

/-- The sum of a timestamp and an amount in a unit given by name. Calendar units count the timestamp in milliseconds,
whatever its unit. -/
def addToTimestamp (s : Surroundings) (model : CalendarModel) (time : Int) (unit : Option String) (amount : Int)
    (amountUnit zoneName : Option String) : Except Error Int :=
  match CalendarUnit.named? amountUnit with
  | none => .ok (addDuration time (.named unit) amount (.named amountUnit))
  | some calendarUnit => do
    let zone ← zoneOrSystem s zoneName
    addCalendar model zone time amount calendarUnit

end CivilTime
