import CivilTime.Calendar.LocalTime
import CivilTime.Zone

/-!
# Moments

An instant is a number of milliseconds since 1970-01-01 00:00 UTC. A moment is an instant as a zone shows it: the local
time, and whether that local time is run through for the first or the second time (`Moment.ofMillis?`, `Moment.toMillis`).
Instants can be shown when both their UTC time and their local time lie in the supported years.
-/

namespace CivilTime

/-- A local time in a zone. -/
structure Moment where
  zone : Zone
  time : LocalTime
  secondPass : Bool
  deriving DecidableEq, Repr

namespace Moment

/-- The local time in a zone, on its first pass. -/
def firstPass (zone : Zone) (time : LocalTime) : Moment := ⟨zone, time, false⟩

/-- What the zone observes at the moment. -/
def observance (m : Moment) : Observance :=
  m.zone.atLocal m.secondPass m.time.seconds

/-- The offset from UTC in seconds. -/
def offset (m : Moment) : Int := m.observance.offset

/-- The instant of a moment. -/
def toMillis (m : Moment) : Int := m.time.millis - 1000 * m.offset

/-- The moment at which a zone shows an instant. -/
def ofMillis? (millis : Int) (zone : Zone) : Option Moment :=
  let utc : LocalTime := ⟨millis⟩
  let (observance, secondPass) := zone.atUtc utc.seconds
  let time := utc.plus (1000 * observance.offset)
  if utc.isSupported && time.isSupported then some ⟨zone, time, secondPass⟩ else none

/-! ### The ISO form -/

/-- The offset in the ISO form with seconds where there are any. -/
private def isoExactOffset (offset : Int) : String :=
  let size := offset.natAbs
  (if offset < 0 then "-" else "+") ++ padded 2 (size / 3600) ++ ":" ++ padded 2 (size / 60 % 60) ++
    if size % 60 = 0 then "" else ":" ++ padded 2 (size % 60)

/-- Date, time and offset in the extended ISO form, with six decimals of the second where it is not whole. -/
def isoText (m : Moment) : String :=
  let date := m.time.date
  padded 4 date.year.toNat ++ "-" ++ padded 2 date.month ++ "-" ++ padded 2 date.day ++ "T" ++
    padded 2 m.time.hour ++ ":" ++ padded 2 m.time.minute ++ ":" ++ padded 2 m.time.second ++
    (if m.time.milli = 0 then "" else "." ++ padded 6 (1000 * m.time.milli)) ++ isoExactOffset m.offset

end Moment

end CivilTime
