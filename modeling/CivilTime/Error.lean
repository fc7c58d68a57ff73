import CivilTime.Moment
import CivilTime.Pattern.Token
import CivilTime.Unit

/-!
# Errors

Everything that can go wrong, by cause (`Error`), with the words in which it is reported (`Error.message?`). Texts,
patterns and zone names are quoted in messages, and numbers are printed. A number that is too long to be printed takes the
place of the error that would have shown it (`Error.showing`). Numbers that are too long, or that no machine number can
hold, and bytes that are no text are reported without words.
-/

namespace CivilTime

/-- Why a date text does not fit a pattern. -/
inductive Mismatch where
  /-- The text does not have the form of the pattern. -/
  | form
  /-- A number in the text is none that the field of the letter admits. -/
  | outOfRange (raw : List Char) (letter : Letter)
  /-- The zone in the text is not known. -/
  | unknownZone (raw : List Char)
  /-- The date does not lie in the supported years. -/
  | unsupportedYear
  /-- The weekday in the text is not that of the date. -/
  | wrongWeekday
  deriving DecidableEq, Repr

/-- The reason in words; a text of another form needs none. -/
def Mismatch.message? : Mismatch → Option String
  | form => none
  | outOfRange raw letter => some (String.ofList raw ++ " is out of range for " ++ quoted (String.singleton letter.char))
  | unknownZone raw => some ("unknown zone " ++ quoted (String.ofList raw))
  | unsupportedYear => some "date is outside years 1-9999"
  | wrongWeekday => some "weekday does not match the date"

/-- What cannot be turned from text into what it stands for, or back. -/
inductive Unconverted where
  /-- A number of more digits than are read or printed. -/
  | number (digits : Nat)
  /-- The bytes in the system's file with the name of the zone. -/
  | zoneFile
  deriving DecidableEq, Repr

/-- What can go wrong. -/
inductive Error where
  /-- A date text does not fit its pattern. -/
  | malformedDate (text pattern : String) (why : Mismatch)
  /-- A caller names a zone that is not known. -/
  | unknownTimezone (name : String)
  /-- A pattern has a flaw. -/
  | invalidPattern (pattern : String) (flaw : PatternFlaw)
  /-- An instant lies outside the supported years. -/
  | unsupportedInstant (millis : Int)
  /-- A shift by calendar units leaves the supported years. -/
  | unsupportedShift (amount : Int) (unit : CalendarUnit) (start : Moment)
  /-- A name agrees with one of the table up to letter case, but its lower-case form does not. -/
  | unlistedName (raw : List Char)
  /-- Something cannot be turned into text, or read from it. -/
  | unconverted (what : Unconverted)
  /-- A year of a complete date does not fit 32 bits. -/
  | yearOverflow (year : Int)
  /-- A number is too large for a double, or infinite. -/
  | floatOverflow
  /-- A number is not a number. -/
  | notANumber
  deriving DecidableEq, Repr

/-- Former name of `Error.unconverted`. -/
@[match_pattern, deprecated Error.unconverted (since := "2026-11-20")]
abbrev Error.numberTooLong (what : Unconverted) : Error := .unconverted what

/-- The report of an error. -/
def Error.message? : Error → Option String
  | malformedDate text pattern why =>
    some ("Unparseable date: " ++ quoted text ++ " does not match pattern " ++ quoted pattern ++
      (match why.message? with
        | some reason => " (" ++ reason ++ ")"
        | none => "") ++
      ".\nHint: pass the pattern the text was written with, e.g.\n" ++
      "  parse_time('2012-12-23', 'ms', 'yyyy-MM-dd')")
  | unknownTimezone name =>
    some ("Unknown timezone: " ++ quoted name ++ ".\n" ++
      "Use an IANA name ('Europe/Berlin'), an offset ('GMT+02:00'),\n" ++
      "or a short id such as 'PST' or 'UTC'.")
  | invalidPattern pattern flaw => some ("Invalid date pattern " ++ quoted pattern ++ ": " ++ flaw.message)
  | unsupportedInstant millis =>
    some ("Timestamp " ++ toString millis ++ "ms is outside the supported years 1-9999")
  | unsupportedShift amount unit start =>
    some ("Adding " ++ toString amount ++ " " ++ unit.name ++ "(s) to " ++ start.isoText ++
      " leaves the supported years 1-9999")
  | unlistedName raw => some ("name " ++ quoted (String.ofList raw) ++ " matched the pattern but not the table")
  | unconverted _ | yearOverflow _ | floatOverflow | notANumber => none

/-! ### Numbers in reports -/

/-- The greatest number of digits with which a number is read or printed. -/
def longestNumber : Nat := 4300

/-- The number of digits of a number in decimal. -/
def digitCount (n : Int) : Nat := (Nat.toDigits 10 n.natAbs).length

/-- The error whose report shows a number, or the failure to print that number. -/
def Error.showing (n : Int) (e : Error) : Error :=
  if longestNumber < digitCount n then .unconverted (.number (digitCount n)) else e

/-! ### Zones and instants -/

/-- The zone that a caller names, or the error that it is not known; the error names the region that was meant. -/
def resolveZone (name : String) (db : Database := .listed) : Except Error Zone :=
  match resolveZone? name db with
  | some zone => .ok zone
  | none => .error (.unknownTimezone (regionName name))

/-- The moment at which a zone shows an instant, or the error that it cannot show it. -/
def Moment.ofMillis (millis : Int) (zone : Zone) : Except Error Moment :=
  match Moment.ofMillis? millis zone with
  | some moment => .ok moment
  | none => .error (.showing millis (.unsupportedInstant millis))

end CivilTime
