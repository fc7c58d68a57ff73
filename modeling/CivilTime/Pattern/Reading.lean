import CivilTime.Pattern.Grammar

/-!
# Reading date texts

A pattern reads the fields of a date off a text (`DatePattern.read`), in any letter case or exactly, with regions from a
database. The pieces of the text are taken in from left to right (`DatePattern.take`); a field that occurs again replaces
what was read before. Hours of other clocks than the one from 0 to 23, and the half of the day, are kept aside and put
together when all pieces are read (`OpenReading.settle`). A strict pattern checks that each number is one that its field
admits. No pattern reads a number of more than `longestNumber` digits, zeros in front included.
-/

namespace CivilTime

/-- The fields read off a text; those that the text does not have are absent. -/
structure Reading where
  year : Option Int
  month : Option Nat
  day : Option Nat
  weekday : Option Nat
  hour : Option Nat
  minute : Option Nat
  second : Option Nat
  millisecond : Option Nat
  zone : Option Zone
  deriving DecidableEq, Repr

/-- The reading of no text. -/
def Reading.empty : Reading :=
  ⟨none, none, none, none, none, none, none, none, none⟩

/-- The clocks that do not count the hours from 0 to 23: from 1 to 24, from 0 to 11 and from 1 to 12. -/
inductive HourClock where
  | fromOne
  | halfDay
  | halfDayFromOne
  deriving DecidableEq, Repr

/-- A reading in progress: an hour on another clock and the half of the day are not settled yet. -/
structure OpenReading where
  fields : Reading
  /-- Whether the text names the second half of the day, if it names one. -/
  afternoon : Option Bool
  /-- The hour on another clock. -/
  clockHour : Option (HourClock × Nat)
  deriving DecidableEq, Repr

/-! ### Single pieces -/

/-- The place of a name in a table, counted from one, by lower-case forms. -/
def indexOfName? (raw : List Char) (table : List String) : Option Nat :=
  (table.findIdx? fun name => lowerText name.toList == lowerText raw).map (· + 1)

/-- The place of a name in the table of full names, or in that of short names. -/
def placeOfName (raw : List Char) (full short : List String) : Except Error Nat :=
  match (indexOfName? raw full).or (indexOfName? raw short) with
  | some n => .ok n
  | none => .error (.unlistedName raw)

/-- The year that two digits stand for: one of this century when reading strictly, otherwise the one in the hundred years
that begin 80 years before today. -/
def twoDigitYear (lenient : Bool) (today : Date) (value : Nat) : Int :=
  if lenient then
    let start := today.year - 80
    let year := start - start % 100 + value
    if start ≤ year then year else year + 100
  else 2000 + value

/-- The number in a field, checked against the field's bounds when reading strictly. -/
def fieldNumber (lenient : Bool) (letter : Letter) (raw : List Char) : Except Mismatch Nat :=
  let value := numeralValue raw
  match letter.bounds? with
  | some (least, most) =>
    if lenient || (least ≤ value && value ≤ most) then .ok value else .error (.outOfRange raw letter)
  | none => .ok value

/-! ### The pieces of a text -/

namespace OpenReading

/-- The reading of no piece. -/
def empty : OpenReading := ⟨.empty, none, none⟩

/-- The reading with a number taken in. -/
def takeNumber (r : OpenReading) (lenient : Bool) (today : Date) (letter : Letter) (width : Nat) (raw : List Char)
    (value : Nat) : OpenReading :=
  match letter with
  | .year | .extendedYear =>
    let year := if width = 2 && raw.length = 2 then twoDigitYear lenient today value else value
    { r with fields.year := some year }
  | .month | .standaloneMonth => { r with fields.month := some value }
  | .day => { r with fields.day := some value }
  | .hour => { r with fields.hour := some value }
  | .hourFromOne => { r with clockHour := some (.fromOne, value) }
  | .halfDayHour => { r with clockHour := some (.halfDay, value) }
  | .clockHour => { r with clockHour := some (.halfDayFromOne, value) }
  | .minute => { r with fields.minute := some value }
  | .second => { r with fields.second := some value }
  | .millisecond => { r with fields.millisecond := some value }
  | _ => r

/-- The hour of the day that an hour on another clock stands for; on the clocks of half a day the half may be open. -/
def hourOfDay (clock : HourClock) (value : Nat) (afternoon : Bool) : Nat :=
  match clock with
  | .fromOne => if value = 24 then 0 else value
  | .halfDay => if afternoon then value + 12 else value
  | .halfDayFromOne =>
    let hour := if value = 12 then 0 else value
    if afternoon then hour + 12 else hour

/-- The fields of a reading when no piece is left. An hour on the clock of half a day is settled if the half is known, or
when reading leniently. -/
def settle (r : OpenReading) (lenient : Bool) : Reading :=
  match r.clockHour with
  | none => r.fields
  | some (clock, value) =>
    if clock = .fromOne || r.afternoon.isSome || lenient then
      { r.fields with hour := some (hourOfDay clock value (r.afternoon.getD false)) }
    else r.fields

end OpenReading

namespace DatePattern

/-- The reading with the piece of a field taken in. -/
def takeField (p : DatePattern) (today : Date) (text : String) (db : Database) (r : OpenReading) (letter : Letter)
    (width : Nat) (raw : List Char) : Except Error OpenReading :=
  if letter.isNumeric width then
    if longestNumber < raw.length then .error (.unconverted (.number raw.length))
    else match fieldNumber p.lenient letter raw with
      | .ok value => .ok (r.takeNumber p.lenient today letter width raw value)
      | .error why => .error (.malformedDate text p.text why)
  else
    match letter with
    | .month | .standaloneMonth => do
      let n ← placeOfName raw p.names.months p.names.shortMonths
      return { r with fields.month := some n }
    | .weekday => do
      let n ← placeOfName raw p.names.weekdays p.names.shortWeekdays
      return { r with fields.weekday := some n }
    | .halfDay => return { r with afternoon := some (lowerText raw == lowerText p.names.afternoon.toList) }
    | _ =>
      match readZone? p.lenient (String.ofList raw) db with
      | some zone => return { r with fields.zone := some zone }
      | none => .error (.malformedDate text p.text (.unknownZone raw))

/-- The reading with the piece of a token taken in. -/
def take (p : DatePattern) (today : Date) (text : String) (db : Database) (r : OpenReading) :
    Token × List Char → Except Error OpenReading
  | (.literal _, _) => .ok r
  | (.field letter width, raw) => p.takeField today text db r letter width raw

/-- The fields of a text. -/
def read (p : DatePattern) (today : Date) (text : String) (db : Database := .listed) : Except Error Reading :=
  match p.pieces? text.toList with
  | none => .error (.malformedDate text p.text .form)
  | some pieces => do
    let r ← (p.tokens.zip pieces).foldlM (p.take today text db) .empty
    return r.settle p.lenient

theorem read_of_pieces? {p : DatePattern} {text : String} {pieces : List (List Char)}
    (h : p.pieces? text.toList = some pieces) (today : Date) (db : Database) :
    p.read today text db =
      (p.tokens.zip pieces).foldlM (p.take today text db) .empty >>= fun r => .ok (r.settle p.lenient) := by
  unfold read
  rw [h]
  rfl

end DatePattern

end CivilTime
