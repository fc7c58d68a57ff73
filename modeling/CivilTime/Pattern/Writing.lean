import CivilTime.Pattern

/-!
# Writing moments

A pattern writes a moment token by token (`DatePattern.write`): literals as they are, numbers with zeros on the left up to
the width of their field, names in full from width four on, and zones by name, identifier or offset. The text is made
of the texts of the tokens (`DatePattern.toList_write`).
-/

namespace CivilTime

/-- The `n`-th name of a table, counted from one. -/
def nameAt (table : List String) (n : Nat) : String :=
  table.getD (n - 1) ""

/-- An offset in the ISO form of a field's width: hours with minutes where there are any, basic, or extended. -/
def writeIsoDigits (width : Nat) (offset : Int) : String :=
  if width = 1 then isoHours offset else isoOffset (3 ≤ width) offset

/-- The text of a field at a moment. -/
def writeField (names : Names) (letter : Letter) (width : Nat) (m : Moment) : String :=
  let hour := m.time.hour
  match letter with
  | .year | .extendedYear =>
    let year := m.time.date.year.toNat
    if width = 2 then padded 2 (year % 100) else padded width year
  | .month | .standaloneMonth =>
    let month := m.time.date.month
    if 4 ≤ width then nameAt names.months month
    else if width = 3 then nameAt names.shortMonths month
    else padded width month
  | .day => padded width m.time.date.day
  | .weekday => nameAt (if 4 ≤ width then names.weekdays else names.shortWeekdays) (weekdayOfDay m.time.day)
  | .halfDay => if hour < 12 then names.forenoon else names.afternoon
  | .hour => padded width hour
  | .hourFromOne => padded width (if hour = 0 then 24 else hour)
  | .halfDayHour => padded width (hour % 12)
  | .clockHour => padded width (if hour % 12 = 0 then 12 else hour % 12)
  | .minute => padded width m.time.minute
  | .second => padded width m.time.second
  | .millisecond => padded width m.time.milli
  | .zoneName => if width < 4 then m.observance.name else m.zone.id
  | .zoneId => m.zone.id
  | .offset =>
    if width = 4 then gmtOffset true m.offset
    else if 5 ≤ width then offsetId m.offset
    else isoOffset false m.offset
  | .gmtOffset => gmtOffset (4 ≤ width) m.offset
  | .isoOffset => if m.offset = 0 then "Z" else writeIsoDigits width m.offset
  | .isoDigits => writeIsoDigits width m.offset

/-- The text of a token at a moment. -/
def Token.write (names : Names) (m : Moment) : Token → String
  | .field letter width => writeField names letter width m
  | .literal text => String.ofList text

/-- The text of a moment. -/
def DatePattern.write (p : DatePattern) (m : Moment) : String :=
  String.join (p.tokens.map (Token.write p.names m))

private theorem toList_foldl_append (ws : List String) (w : String) :
    (ws.foldl (· ++ ·) w).toList = w.toList ++ ws.flatMap String.toList := by
  induction ws generalizing w with
  | nil => simp
  | cons v ws ih => simp [ih]

/-- The characters of a written moment are those of its fields and literals, one after the other. -/
theorem DatePattern.toList_write (p : DatePattern) (m : Moment) :
    (p.write m).toList = p.tokens.flatMap fun token => (token.write p.names m).toList := by
  unfold write String.join
  rw [toList_foldl_append]
  simp [List.flatMap_map]

end CivilTime
