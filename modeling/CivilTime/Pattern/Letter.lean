/-!
# Pattern letters

In a date pattern a letter stands for a field of the date (`Letter`), and a run of one letter is one field whose width is
the length of the run. Two letters may stand for one field: `y` and `u` for the year, `M` and `L` for the month.
-/

namespace CivilTime

/-- The letters that stand for fields. -/
inductive Letter where
  /-- `y`, the year. -/
  | year
  /-- `u`, the year as well. -/
  | extendedYear
  /-- `M`, the month. -/
  | month
  /-- `L`, the month as well. -/
  | standaloneMonth
  /-- `d`, the day of the month. -/
  | day
  /-- `E`, the weekday. -/
  | weekday
  /-- `a`, the half of the day. -/
  | halfDay
  /-- `H`, the hour from 0 to 23. -/
  | hour
  /-- `k`, the hour from 1 to 24. -/
  | hourFromOne
  /-- `K`, the hour of the half-day from 0 to 11. -/
  | halfDayHour
  /-- `h`, the hour of the half-day from 1 to 12. -/
  | clockHour
  /-- `m`, the minute. -/
  | minute
  /-- `s`, the second. -/
  | second
  /-- `S`, the millisecond. -/
  | millisecond
  /-- `z`, the name of the zone. -/
  | zoneName
  /-- `Z`, the offset. -/
  | offset
  /-- `X`, the ISO offset with a letter for zero. -/
  | isoOffset
  /-- `x`, the ISO offset in digits. -/
  | isoDigits
  /-- `O`, the offset after the letters GMT. -/
  | gmtOffset
  /-- `V`, the identifier of the zone. -/
  | zoneId
  deriving DecidableEq, Repr

namespace Letter

/-- The character of a letter. -/
def char : Letter → Char
  | year => 'y'
  | extendedYear => 'u'
  | month => 'M'
  | standaloneMonth => 'L'
  | day => 'd'
  | weekday => 'E'
  | halfDay => 'a'
  | hour => 'H'
  | hourFromOne => 'k'
  | halfDayHour => 'K'
  | clockHour => 'h'
  | minute => 'm'
  | second => 's'
  | millisecond => 'S'
  | zoneName => 'z'
  | offset => 'Z'
  | isoOffset => 'X'
  | isoDigits => 'x'
  | gmtOffset => 'O'
  | zoneId => 'V'

/-- All letters. -/
def all : List Letter := [
  year, extendedYear, month, standaloneMonth, day, weekday, halfDay, hour, hourFromOne, halfDayHour, clockHour, minute,
  second, millisecond, zoneName, offset, isoOffset, isoDigits, gmtOffset, zoneId]

/-- The letter of a character. -/
def ofChar? (c : Char) : Option Letter :=
  all.find? fun letter => letter.char == c

/-- Every letter is listed. -/
theorem mem_all (letter : Letter) : letter ∈ all := by
  cases letter <;> decide

theorem ofChar?_char (letter : Letter) : ofChar? letter.char = some letter := by
  cases letter <;> decide

theorem char_of_ofChar? {c : Char} {letter : Letter} (h : ofChar? c = some letter) : letter.char = c := by
  simpa using List.find?_some h

/-- Whether a field of the letter is written in digits at the given width; months are so up to width two. -/
def isNumeric : Letter → Nat → Bool
  | month, width | standaloneMonth, width => width ≤ 2
  | year, _ | extendedYear, _ | day, _ | hour, _ | hourFromOne, _ | halfDayHour, _ | clockHour, _ | minute, _
  | second, _ | millisecond, _ => true
  | _, _ => false

/-- The values that exact reading admits for a field in digits, where it bounds them. -/
def bounds? : Letter → Option (Nat × Nat)
  | month | standaloneMonth => some (1, 12)
  | day => some (1, 31)
  | hour => some (0, 23)
  | hourFromOne => some (1, 24)
  | halfDayHour => some (0, 11)
  | clockHour => some (1, 12)
  | minute | second => some (0, 59)
  | _ => none

end Letter

end CivilTime
