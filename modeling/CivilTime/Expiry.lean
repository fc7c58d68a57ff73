import CivilTime.Unit

/-!
# Expiry

Records with a limited life carry the instant at which they expire, in milliseconds: a given time (`expireAt`), or the
present and a span of time (`expireIn`).
-/

namespace CivilTime

/-- The expiry at a time in a unit. -/
def expireAt (time : Int) (unit : Option String) : Int :=
  durationMillis time (.named unit)

/-- The expiry a span of time in a unit after the present. -/
def expireIn (span : Int) (unit : Option String) (now : Int) : Int :=
  now + durationMillis span (.named unit)

end CivilTime
