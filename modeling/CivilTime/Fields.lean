import CivilTime.Format

/-!
# Fields of dates and instants

`fieldsOfText` reports the fields of a date text that is read strictly, and the zone that the text names by the name it
has at that date and time. `fieldOfInstant` reads one field of an instant as a zone shows it.
-/

namespace CivilTime

/-! ### Texts -/

/-- The fields of a date text; those that the text does not have are absent. -/
structure DateFields where
  years : Option Int
  months : Option Nat
  weekdays : Option Nat
  days : Option Nat
  hours : Option Nat
  minutes : Option Nat
  seconds : Option Nat
  zone : Option String
  deriving DecidableEq, Repr

/-- A value of a field. -/
inductive FieldValue where
  | number (n : Int)
  | text (s : String)
  deriving DecidableEq, Repr

namespace DateFields

/-- The fields of no text. -/
def empty : DateFields := ⟨none, none, none, none, none, none, none, none⟩

/-- The fields that are present, with their names, in the order in which they are reported. -/
def entries (f : DateFields) : List (String × FieldValue) :=
  let numbers : List (String × Option Int) := [
    ("years", f.years), ("months", f.months.map Nat.cast), ("weekdays", f.weekdays.map Nat.cast),
    ("days", f.days.map Nat.cast), ("hours", f.hours.map Nat.cast), ("minutes", f.minutes.map Nat.cast),
    ("seconds", f.seconds.map Nat.cast)]
  numbers.filterMap (fun (name, value) => value.map fun n => (name, .number n)) ++
    (f.zone.map fun name => ("zoneid", .text name)).toList

end DateFields

/-- The moment at which the zone of a reading is named: its date, if it is complete, or else 1 January 1970, and its hour
and minute. -/
def Reading.namingTime (r : Reading) : LocalTime :=
  let date : Date := match r.year, r.month, r.day with
    | some year, some month, some day => ⟨year, month, day⟩
    | _, _, _ => ⟨1970, 1, 1⟩
  .of date (r.hour.getD 0) (r.minute.getD 0) 0 0

/-- The name of the zone of a reading. -/
def Reading.zoneName? (r : Reading) : Option String :=
  r.zone.map fun zone => (Moment.firstPass zone r.namingTime).observance.name

/-- The fields that are reported of a reading. -/
def Reading.dateFields (r : Reading) : DateFields :=
  ⟨r.year, r.month, r.weekday, r.day, r.hour, r.minute, r.second, r.zoneName?⟩

/-- The fields of a date text; no text and the empty text have none. -/
def fieldsOfText (s : Surroundings) (text pattern : Option String) : Except Error DateFields :=
  match text.filter (· != "") with
  | none => .ok .empty
  | some text => do
    let format ← DateFormat.strict s pattern none
    return (← format.readFields s text).dateFields

/-! ### Instants -/

/-- The field that is read where none is named. -/
def defaultField : String := "d"

/-- One field of a local time: that of a fixed unit or of the month; every other name means the year. -/
def LocalTime.field (t : LocalTime) (unit : Option String) : Int :=
  match unit.bind DurationUnit.ofName? with
  | some .millisecond => t.milli
  | some .second => t.second
  | some .minute => t.minute
  | some .hour => t.hour
  | some .day => t.date.day
  | none =>
    match unit.bind CalendarUnit.ofName? with
    | some .month => t.date.month
    | _ => t.date.year

/-- One field of an instant as a zone shows it; no instant has none. -/
def fieldOfInstant (millis : Option Int) (unit : Option String) (zoneName : String) (db : Database := .listed) :
    Except Error (Option Int) :=
  match millis with
  | none => .ok none
  | some millis => do
    let zone ← resolveZone zoneName db
    let moment ← Moment.ofMillis millis zone
    return some (moment.time.field unit)

end CivilTime
