import CivilTime.Format

/-!
# Timestamps

A timestamp is an instant counted in a fixed unit. Texts are read into timestamps and timestamps are written as texts;
reading truncates towards 1970, and writing saturates at the signed 64-bit numbers before it looks for the date.
-/

namespace CivilTime

/-- The instant of a text, if there is a text. -/
def readMillis (s : Surroundings) (text pattern zoneName : Option String) : Except Error (Option Int) :=
  match text with
  | none => .ok none
  | some text => do
    let format ← DateFormat.lenient s pattern zoneName
    return some (← format.readInstant s text)

/-- The text of an instant. -/
def writeMillis (s : Surroundings) (millis : Int) (pattern zoneName : Option String) : Except Error String := do
  let format ← DateFormat.lenient s pattern zoneName
  format.write s millis

/-- The timestamp of a text in a unit, if there is a text. -/
def readTimestamp (s : Surroundings) (text unit pattern zoneName : Option String) : Except Error (Option Int) := do
  let millis ← readMillis s text pattern zoneName
  return millis.map fun millis => convertDuration millis .millisecond (.named unit)

/-- The text of a timestamp in a unit. -/
def writeTimestamp (s : Surroundings) (time : Int) (unit pattern zoneName : Option String) : Except Error String :=
  writeMillis s (durationMillis time (.named unit)) pattern zoneName

/-- A timestamp in another unit, the units given by name. -/
def convertTimestamp (time : Int) (source target : Option String) : Int :=
  convertDuration time (.named source) (.named target)

end CivilTime
