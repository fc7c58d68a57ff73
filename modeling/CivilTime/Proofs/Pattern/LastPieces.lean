import CivilTime.Proofs.Pattern.Lenience

/-!
# The pieces that decide

Of several pieces for one part of a date the last one decides (`lastPiece?`). So what is read of the pieces of a text is known
from them: a number is that of the last piece of a field for it, a name stands for its place in the tables, and a zone for the
one that it names (`DatePattern.readingOf`). Each piece that is taken in leads from the reading of the pieces before it to that
of the pieces with it (`DatePattern.readingOf_takes`), and so all pieces are read in this way (`DatePattern.eq_readingOf`).
-/

namespace CivilTime

/-- The last field with one of the letters, and its piece. -/
def lastPiece? (letters : List Letter) (taken : List (Token × List Char)) : Option (Letter × Nat × List Char) :=
  taken.reverse.findSome? fun entry => (entry.1.fieldOf? letters).map fun field => (field.1, field.2, entry.2)

@[simp] theorem lastPiece?_literal (letters : List Letter) (taken : List (Token × List Char)) (text raw : List Char) :
    lastPiece? letters (taken ++ [(.literal text, raw)]) = lastPiece? letters taken := by
  unfold lastPiece?
  rw [List.reverse_append, List.reverse_singleton, List.singleton_append, List.findSome?_cons]
  rfl

@[simp] theorem lastPiece?_field (letters : List Letter) (taken : List (Token × List Char)) (letter : Letter) (width : Nat)
    (raw : List Char) :
    lastPiece? letters (taken ++ [(.field letter width, raw)]) =
      if letter ∈ letters then some (letter, width, raw) else lastPiece? letters taken := by
  unfold lastPiece? Token.fieldOf?
  rw [List.reverse_append, List.reverse_singleton, List.singleton_append, List.findSome?_cons]
  by_cases h : letter ∈ letters
  · simp only [if_pos h, Option.map_some]
  · simp only [if_neg h, Option.map_none]

namespace DatePattern

/-- The year that a piece stands for. -/
def yearOf (p : DatePattern) (today : Date) (width : Nat) (raw : List Char) : Int :=
  if width = 2 && raw.length = 2 then twoDigitYear p.lenient today (numeralValue raw) else numeralValue raw

/-- The reading of pieces: the last one for each part of a date decides. -/
def readingOf (p : DatePattern) (today : Date) (db : Database) (taken : List (Token × List Char)) : OpenReading where
  fields :=
    { year := (lastPiece? [.year, .extendedYear] taken).map fun (_, width, raw) => p.yearOf today width raw
      month := (lastPiece? [.month, .standaloneMonth] taken).bind fun (letter, width, raw) =>
        if letter.isNumeric width then some (numeralValue raw)
        else (placeOfName raw p.names.months p.names.shortMonths).toOption
      day := (lastPiece? [.day] taken).map fun (_, _, raw) => numeralValue raw
      weekday := (lastPiece? [.weekday] taken).bind fun (_, _, raw) =>
        (placeOfName raw p.names.weekdays p.names.shortWeekdays).toOption
      hour := (lastPiece? [.hour] taken).map fun (_, _, raw) => numeralValue raw
      minute := (lastPiece? [.minute] taken).map fun (_, _, raw) => numeralValue raw
      second := (lastPiece? [.second] taken).map fun (_, _, raw) => numeralValue raw
      millisecond := (lastPiece? [.millisecond] taken).map fun (_, _, raw) => numeralValue raw
      zone := (lastPiece? zoneLetters taken).bind fun (_, _, raw) => readZone? p.lenient (String.ofList raw) db }
  afternoon := (lastPiece? [.halfDay] taken).map fun (_, _, raw) => lowerText raw == lowerText p.names.afternoon.toList
  clockHour := (lastPiece? clockLetters taken).map fun (letter, _, raw) => (letter.clock, numeralValue raw)

variable {p : DatePattern} {today : Date} {text : String} {db : Database} {r : OpenReading} {letter : Letter}
  {width : Nat} {raw : List Char} {taken : List (Token × List Char)}

/-- Taking in a piece leads from the reading of the pieces before it to that with it. -/
theorem readingOf_takes (h : p.Takes today db (p.readingOf today db taken) letter width raw r) :
    r = p.readingOf today db (taken ++ [(.field letter width, raw)]) := by
  cases h with
  | number hnum hlong hvalue =>
    obtain rfl := eq_numeralValue_of_fieldNumber hvalue
    cases letter with
    | year | extendedYear | month | standaloneMonth | day | hour | minute | second | millisecond | hourFromOne | halfDayHour
    | clockHour =>
      simp [OpenReading.takeNumber, readingOf, yearOf, clockLetters, zoneLetters, offsetLetters, Letter.clock, hnum]
    | _ => cases hnum
  | month hletter hnum hn =>
    simp only [List.mem_cons, List.not_mem_nil, or_false] at hletter
    rcases hletter with rfl | rfl <;>
      simp [readingOf, clockLetters, zoneLetters, offsetLetters, hnum, hn, Except.toOption]
  | weekday hletter hn =>
    subst hletter
    simp [readingOf, clockLetters, zoneLetters, offsetLetters, hn, Except.toOption]
  | halfDay hletter =>
    subst hletter
    simp [readingOf, clockLetters, zoneLetters, offsetLetters]
  | zone hletter hzone =>
    simp only [zoneLetters, offsetLetters, List.cons_append, List.nil_append, List.mem_cons, List.not_mem_nil,
      or_false] at hletter
    rcases hletter with rfl | rfl | rfl | rfl | rfl | rfl <;>
      simp [readingOf, clockLetters, zoneLetters, offsetLetters, hzone]

/-- The pieces of a text are read as the last ones say. -/
theorem eq_readingOf (h : taken.foldlM (p.take today text db) .empty = .ok r) : r = p.readingOf today db taken := by
  refine foldlM_invariant (P := fun done r => r = p.readingOf today db done) h rfl ?_
  rintro done ⟨token, raw⟩ - _ r' rfl hstep
  cases token with
  | literal text =>
    cases hstep
    simp [readingOf]
  | field letter width => exact readingOf_takes (takes_of_takeField hstep)

end DatePattern

end CivilTime
