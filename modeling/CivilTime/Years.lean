import CivilTime.Timestamp

/-!
# Years as decimal numbers

An instant in years of 365 days, as a double (`yearsOf`): the years since 1970 for an instant given as a number, the year
with its fraction for one given as a text. A whole number is rounded to the nearest double, ties to the even one
(`nearestFloat?`), and a number with a fraction is cut down to a whole one (`wholePart`).
-/

namespace CivilTime

/-- The double of a sign, an exponent and 53 significant bits, the first of which is set. -/
def floatOfParts (negative : Bool) (exponent significand : Nat) : Float :=
  let sign : Nat := if negative then 1 <<< 63 else 0
  Float.ofBits (UInt64.ofNat (sign + (exponent + 1023) <<< 52 + (significand - 1 <<< 52)))

/-- A quotient by a power of two rounded to the nearest whole number, a half to the even neighbour. -/
def roundedShift (n bits : Nat) : Nat :=
  let quotient := n >>> bits
  let twice := 2 * (n % 1 <<< bits)
  if twice < 1 <<< bits then quotient
  else if 1 <<< bits < twice then quotient + 1
  else quotient + quotient % 2

/-- The double nearest to a whole number, if it is in the range of the doubles. -/
def nearestFloat? (n : Int) : Option Float :=
  let size := n.natAbs
  let length := size.log2
  if size = 0 then some 0.0
  else
    let significand := if length ≤ 52 then size <<< (52 - length) else roundedShift size (length - 52)
    let exponent := if significand = 1 <<< 53 then length + 1 else length
    let significand := if significand = 1 <<< 53 then 1 <<< 52 else significand
    if 1023 < exponent then none else some (floatOfParts (n < 0) exponent significand)

/-- The whole part of a double, towards zero. -/
def wholePart (x : Float) : Except Error Int :=
  let bits := x.toBits.toNat
  let exponent := (bits >>> 52) % 1 <<< 11
  let fraction := bits % 1 <<< 52
  if exponent = 2047 then .error (if fraction = 0 then .floatOverflow else .notANumber)
  else
    let size : Nat :=
      if exponent < 1023 then 0
      else if exponent ≤ 1075 then (1 <<< 52 + fraction) >>> (1075 - exponent)
      else (1 <<< 52 + fraction) <<< (exponent - 1075)
    .ok (if bits < 1 <<< 63 then size else -size)

/-- What years are asked of: a number of milliseconds, whole or not, a text, or nothing. -/
inductive YearsSource where
  | whole (millis : Int)
  | decimal (millis : Float)
  | text (text : String)
  | nothing

/-- A whole number of milliseconds in years of 365 days. -/
def yearsOfMillis (millis : Int) : Except Error Float :=
  match nearestFloat? millis with
  | some x => .ok (x / 31536000000.0)
  | none => .error .floatOverflow

/-- The year of a text, with its fraction. -/
def yearsOfText (s : Surroundings) (text : String) (pattern : Option String) : Except Error Float := do
  let format ← DateFormat.lenient s pattern none
  let millis ← format.readInstant s text
  return 1970.0 + (← yearsOfMillis millis)

/-- The years of a source; nothing is read as the text `None`. -/
def yearsOf (s : Surroundings) (source : YearsSource) (pattern : Option String) : Except Error Float :=
  match source with
  | .whole millis => yearsOfMillis millis
  | .decimal millis => do yearsOfMillis (← wholePart millis)
  | .text text => yearsOfText s text pattern
  | .nothing => yearsOfText s "None" pattern

end CivilTime
