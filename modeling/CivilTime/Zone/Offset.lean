import CivilTime.Text.Shape

/-!
# Offsets from UTC as text

An offset is a number of seconds to the east of UTC. Its texts count whole minutes, rounded down, in three forms: basic
and extended ISO (`isoOffset`), and after the letters GMT (`gmtOffset`); `offsetId` is the form that names an offset.
`readOffset?` reads all of them back, with digits of any script, up to 18 hours to either side; the name that it gives
to the offset is again such a text.
-/

namespace CivilTime

/-! ### Writing -/

/-- The sign of a number of minutes. -/
def offsetSign (minutes : Int) : String :=
  if minutes < 0 then "-" else "+"

/-- The ISO form of an offset: sign, hours and minutes, with or without a colon between them. -/
def isoOffset (colon : Bool) (offset : Int) : String :=
  let minutes := offset / 60
  offsetSign minutes ++ padded 2 (minutes.natAbs / 60) ++ (if colon then ":" else "") ++ padded 2 (minutes.natAbs % 60)

/-- The ISO form that leaves out minutes of zero. -/
def isoHours (offset : Int) : String :=
  let minutes := offset / 60
  if minutes.natAbs % 60 = 0 then offsetSign minutes ++ padded 2 (minutes.natAbs / 60) else isoOffset false offset

/-- The form that names an offset: a Z for zero, otherwise the extended ISO form. -/
def offsetId (offset : Int) : String :=
  if offset = 0 then "Z" else isoOffset true offset

/-- The form after the letters GMT: `GMT` alone for zero, with two digits for the hours and all minutes in full, without
leading and final zeros otherwise. -/
def gmtOffset (full : Bool) (offset : Int) : String :=
  let minutes := offset / 60
  if minutes = 0 then "GMT"
  else if full then "GMT" ++ isoOffset true offset
  else
    "GMT" ++ offsetSign minutes ++ padded 1 (minutes.natAbs / 60) ++
      if minutes.natAbs % 60 = 0 then "" else ":" ++ padded 2 (minutes.natAbs % 60)

/-! ### The shapes of offsets in text -/

/-- Two digits for the minutes, after a colon. -/
def colonMinutes : Shape := .seq (.word [':']) (.run .digit 2 (some 2))

/-- Two digits for the minutes, after a colon or not. -/
def minutesShape : Shape := .seq (.optional (.word [':'])) (.run .digit 2 (some 2))

/-- The names of the zero meridian that may stand before an offset. -/
def meridianNames : List (List Char) := ["GMT".toList, "UTC".toList, "UT".toList]

/-! ### Reading -/

/-- An offset with the name it goes by. -/
structure NamedOffset where
  offset : Int
  name : String
  deriving DecidableEq, Repr

/-- The offset of zero. -/
def NamedOffset.zero : NamedOffset := ⟨0, "Z"⟩

/-- The offset in seconds of a sign, digits for the hours, and digits for the minutes which may follow a colon and may be
absent. There is none for more than 59 minutes or more than 18 hours. -/
def offsetOfDigits? (sign hours minutes : List Char) : Option Int :=
  let minutes := numeralValue (minutes.filter (· != ':'))
  let size : Nat := 3600 * numeralValue hours + 60 * minutes
  if 64800 < size || 59 < minutes then none else some (if sign = ['-'] then -size else size)

/-- The offset after the name of the zero meridian: one or two digits for the hours, minutes with or without a colon. -/
def readPrefixedOffset? (text : List Char) : Option (Option NamedOffset) :=
  match cutAll false List.isEmpty
      [.words meridianNames, .run .sign 1 (some 1), .run .digit 1 (some 2), .optional minutesShape] text with
  | some [_, sign, hours, minutes] =>
    some ((offsetOfDigits? sign hours minutes).map fun offset => ⟨offset, gmtOffset true offset⟩)
  | _ => none

/-- The offset that stands alone: two digits for the hours, minutes with or without a colon. -/
def readBareOffset? (text : List Char) : Option NamedOffset :=
  match cutAll false List.isEmpty
      [.run .sign 1 (some 1), .run .digit 2 (some 2), .optional minutesShape] text with
  | some [sign, hours, minutes] => (offsetOfDigits? sign hours minutes).map fun offset => ⟨offset, offsetId offset⟩
  | _ => none

/-- The offset that a text writes, if it writes one: a Z, a name of the zero meridian, alone or before an offset, or an
offset. -/
def readOffset? (text : String) : Option NamedOffset :=
  if text = "Z" then some .zero
  else if text = "GMT" then some ⟨0, "GMT"⟩
  else if text = "UTC" || text = "UT" then some ⟨0, "UTC"⟩
  else (readPrefixedOffset? text.toList).getD (readBareOffset? text.toList)

end CivilTime
