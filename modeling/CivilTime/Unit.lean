import CivilTime.Text.Casing

/-!
# Units of time

Durations are counted in fixed units, from milliseconds to days; months and years have no fixed length and are units of
the calendar only. `convertDuration` takes a duration from one fixed unit to another: to a longer unit it divides and truncates
towards zero, to a shorter one it multiplies and stays within the signed 64-bit numbers.
-/

namespace CivilTime

/-- A unit of fixed length. -/
inductive DurationUnit where
  | millisecond
  | second
  | minute
  | hour
  | day
  deriving DecidableEq, Repr

/-- A unit whose length depends on the date. -/
inductive CalendarUnit where
  | month
  | year
  deriving DecidableEq, Repr

/-- The length of a unit in milliseconds. -/
def DurationUnit.millis : DurationUnit → Int
  | .millisecond => 1
  | .second => 1000
  | .minute => 60000
  | .hour => 3600000
  | .day => 86400000

/-- The name of a calendar unit. -/
def CalendarUnit.name : CalendarUnit → String
  | .month => "month"
  | .year => "year"

/-! ### Names of units -/

/-- The names of the fixed units, in small letters. -/
def durationNames : List (String × DurationUnit) := [
  ("ms", .millisecond), ("milli", .millisecond), ("millis", .millisecond), ("milliseconds", .millisecond),
  ("s", .second), ("second", .second), ("seconds", .second),
  ("m", .minute), ("minute", .minute), ("minutes", .minute),
  ("h", .hour), ("hour", .hour), ("hours", .hour),
  ("d", .day), ("day", .day), ("days", .day)]

/-- The names of the calendar units, in small letters. -/
def calendarNames : List (String × CalendarUnit) := [
  ("month", .month), ("months", .month), ("year", .year), ("years", .year)]

/-- A unit's name in small letters. -/
def unitKey (name : String) : String :=
  String.ofList (lowerText name.toList)

/-- The fixed unit of a name in any letter case. -/
def DurationUnit.ofName? (name : String) : Option DurationUnit :=
  durationNames.lookup (unitKey name)

/-- The calendar unit of a name in any letter case. -/
def CalendarUnit.ofName? (name : String) : Option CalendarUnit :=
  calendarNames.lookup (unitKey name)

/-- The fixed unit that a caller names; no name and every other name mean milliseconds. -/
def DurationUnit.named (name : Option String) : DurationUnit :=
  (name.bind ofName?).getD .millisecond

/-- The calendar unit that a caller names, if the name is that of one. -/
def CalendarUnit.named? (name : Option String) : Option CalendarUnit :=
  name.bind ofName?

/-! ### Conversion -/

/-- The greatest signed 64-bit number. -/
def int64Max : Int := 9223372036854775807

/-- The least signed 64-bit number. -/
def int64Min : Int := -9223372036854775808

/-- A multiple that stays within the signed 64-bit numbers: where `value` is too large or too small for the multiple to be
one of them, it is the greatest or the least of them. -/
def saturatingMul (value ratio : Int) : Int :=
  if int64Max / ratio < value then int64Max
  else if value < -(int64Max / ratio) then int64Min
  else value * ratio

/-- A duration in another unit. -/
def convertDuration (value : Int) (source target : DurationUnit) : Int :=
  if source = target then value
  else if target.millis < source.millis then saturatingMul value (source.millis / target.millis)
  else value.tdiv (target.millis / source.millis)

/-- A duration in milliseconds. -/
def durationMillis (value : Int) (unit : DurationUnit) : Int :=
  convertDuration value unit .millisecond

end CivilTime
