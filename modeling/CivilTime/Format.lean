import CivilTime.Pattern.Reading
import CivilTime.Pattern.Writing
import CivilTime.Surroundings

/-!
# Formats

A format is a date pattern bound to a zone and to the names of a locale. It is bound to the zone that a caller names; if
the caller names none, a pattern of zone letters alone leaves it unbound, and every other pattern binds it to UTC. An
unbound format shows instants in the system's zone (`DateFormat.shownZone`). The lenient format turns texts into
instants (`DateFormat.readInstant`), the strict one into fields that agree with each other (`DateFormat.readFields`).
-/

namespace CivilTime

/-- The pattern that is used where none is given. -/
def defaultPattern : String := "yyyy-MM-dd HH:mm:ss"

/-- What a caller asks for: a pattern, and a zone or none. -/
structure FormatSpec where
  pattern : String
  zoneName : Option String
  deriving DecidableEq, Repr

/-- The request of a pattern and a zone that may be absent; empty texts count as absent. -/
def FormatSpec.of (pattern zoneName : Option String) : FormatSpec :=
  ⟨(pattern.filter (· != "")).getD defaultPattern, zoneName.filter (· != "")⟩

/-- The zone that a format is bound to, if it is bound. -/
def FormatSpec.boundZone (spec : FormatSpec) (db : Database) : Except Error (Option Zone) :=
  match spec.zoneName with
  | some name => (resolveZone name db).map some
  | none => .ok (if isZonePattern spec.pattern then none else some .utc)

/-- A date pattern bound to a zone and a locale. -/
structure DateFormat where
  spec : FormatSpec
  locale : String
  zone : Option Zone
  pattern : DatePattern
  deriving DecidableEq, Repr

namespace DateFormat

/-- The format of a request, strict or lenient, with the names of a locale and the regions of a database. -/
def bind (spec : FormatSpec) (locale : String) (lenient : Bool) (db : Database) : Except Error DateFormat := do
  let zone ← spec.boundZone db
  let pattern ← DatePattern.of spec.pattern (.of locale) lenient
  return ⟨spec, locale, zone, pattern⟩

/-- The lenient format for a pattern and a zone. -/
def lenient (s : Surroundings) (pattern zoneName : Option String) : Except Error DateFormat :=
  bind (.of pattern zoneName) s.locale true s.database

/-- The strict format for a pattern and a zone; its names do not depend on the country. -/
def strict (s : Surroundings) (pattern zoneName : Option String) : Except Error DateFormat :=
  bind (.of pattern zoneName) (pinnedLocale s.locale) false s.database

/-- The zone in which instants are shown. -/
def shownZone (f : DateFormat) (s : Surroundings) : Except Error Zone :=
  match f.zone with
  | some zone => .ok zone
  | none => s.zone

/-- The zone in which instants are shown, and UTC where there is none. -/
def effectiveZone (f : DateFormat) (s : Surroundings) : Zone :=
  (f.shownZone s).toOption.getD .utc

/-- The text of an instant. -/
def write (f : DateFormat) (s : Surroundings) (millis : Int) : Except Error String := do
  let zone ← f.shownZone s
  let moment ← Moment.ofMillis millis zone
  return f.pattern.write moment

end DateFormat

/-! ### From fields to an instant -/

/-- The local time of the fields, with 1 January 1970 and midnight for what is absent. Values beyond their usual range
carry over: months to years, and everything below the month to the following or preceding days. A month of zero counts
as absent. There is no such time outside the supported years. -/
def Reading.localTime? (r : Reading) : Option LocalTime := do
  let year := r.year.getD 1970
  guard (supportedYear year)
  let month := r.month.getD 1
  let start ← Date.addMonths ⟨year, 1, 1⟩ (if month = 0 then 0 else month - 1)
  let time := (LocalTime.of start 0 0 0 0).plus
    (millisPerDay * ((r.day.getD 1 : Int) - 1) + 3600000 * r.hour.getD 0 + 60000 * r.minute.getD 0
      + 1000 * r.second.getD 0 + r.millisecond.getD 0)
  guard time.isSupported
  return time

/-- The zone in which the fields of a text are read. The zone in the text decides over that of the format. -/
def DateFormat.readingZone (f : DateFormat) (s : Surroundings) (r : Reading) : Except Error Zone :=
  match r.zone with
  | some zone => .ok zone
  | none => f.shownZone s

/-- The instant of a text. -/
def DateFormat.readInstant (f : DateFormat) (s : Surroundings) (text : String) : Except Error Int := do
  let r ← f.pattern.read s.today text s.database
  let zone ← f.readingZone s r
  match r.localTime? with
  | some time => return (Moment.firstPass zone time).toMillis
  | none => .error (.malformedDate text f.spec.pattern .unsupportedYear)

/-! ### Fields that agree with each other -/

/-- The reading with the date completed: if year, month and day are given, the day is brought down to the length of the
month and the weekday is that of the date. A weekday that was read must be that one. -/
def Reading.withDate (r : Reading) (text pattern : String) : Except Error Reading :=
  match r.year, r.month, r.day with
  | some year, some month, some day =>
    if 2147483647 < year then .error (.yearOverflow year)
    else if !supportedYear year then .error (.malformedDate text pattern .unsupportedYear)
    else
      let date := Date.clamped ⟨year, month, day⟩
      if r.weekday.any (· != date.weekday) then .error (.malformedDate text pattern .wrongWeekday)
      else .ok { r with day := some date.day, weekday := some date.weekday }
  | _, _, _ => .ok r

/-- The reading with the time completed: an hour implies minute zero and second zero, unless the text leaves out the minute
and goes on to seconds. -/
def Reading.withTime (r : Reading) : Reading :=
  if r.hour.isSome && !(r.minute.isNone && (r.second.isSome || r.millisecond.isSome)) then
    { r with minute := some (r.minute.getD 0), second := some (r.second.getD 0) }
  else r

/-- The fields of a text, completed. -/
def DateFormat.readFields (f : DateFormat) (s : Surroundings) (text : String) : Except Error Reading := do
  let r ← f.pattern.read s.today text s.database
  let r ← r.withDate text f.spec.pattern
  return r.withTime

end CivilTime
