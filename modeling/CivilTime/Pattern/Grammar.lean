import CivilTime.Pattern

/-!
# The form of date texts

Each token of a pattern has a shape that its piece of a text must have (`Token.shape`): literals their own text, numbers a
count of digits, names one of the names, and zones what their letter writes. A number in front of another number has
exactly the width of its field, so that the two can be told apart. `DatePattern.pieces?` cuts a text into the pieces of
a pattern; greedy pieces give way where the following ones do not fit.
-/

namespace CivilTime

/-! ### Names -/

/-- The word put before the first of the words that is not longer. -/
def insertByLength (word : List Char) : List (List Char) → List (List Char)
  | [] => [word]
  | w :: ws => if w.length ≤ word.length then word :: w :: ws else w :: insertByLength word ws

/-- The words, long ones before short ones, so that a name is preferred to its abbreviation. -/
def longestFirst (ws : List (List Char)) : List (List Char) :=
  ws.foldr insertByLength []

/-- One of the names. -/
def namesShape (table : List String) : Shape :=
  .words (longestFirst (table.map String.toList))

/-! ### Zones -/

/-- The name of a region: parts of letters, digits and signs with slashes between them, the first of which starts with a
letter. -/
def regionShape : Shape :=
  .seq (.run .letter 1 (some 1)) (.seq (.run .nameChar 0 none)
    (.many (.seq (.word ['/']) (.run .nameChar 1 none))))

/-- An offset after the name of the zero meridian. -/
def prefixedShape (hours minutes : Shape) : Shape :=
  .optional (.seq (.run .sign 1 (some 1)) (.seq hours (.optional minutes)))

/-- One or two digits for the hours. -/
def looseHours : Shape := .run .digit 1 (some 2)

/-- Two digits for the hours. -/
def fixedHours : Shape := .run .digit 2 (some 2)

/-- The shape of a zone in text that a letter asks for. -/
def zoneShape : Letter → Shape
  | .offset =>
    .either (.seq (.run .sign 1 (some 1)) (.seq fixedHours minutesShape))
      (.either (.word ['Z']) (.seq (.word "GMT".toList) (prefixedShape looseHours minutesShape)))
  | .isoOffset => .either (.word ['Z']) (.seq (.run .sign 1 (some 1)) (.seq fixedHours (.optional minutesShape)))
  | .isoDigits => .seq (.run .sign 1 (some 1)) (.seq fixedHours (.optional minutesShape))
  | .gmtOffset => .seq (.word "GMT".toList) (prefixedShape looseHours colonMinutes)
  | _ => .either (.seq (.words meridianNames) (prefixedShape looseHours minutesShape)) regionShape

/-! ### Fields -/

/-- The number of digits that a field in digits may have at most when no other number follows it. -/
def Letter.maxDigits : Letter → Nat → Nat
  | .year, width | .extendedYear, width => max width 4
  | .millisecond, width => max width 3
  | _, _ => 2

/-- The shape of the number in a field; `adjacent` tells that another number follows it directly. -/
def numberShape (letter : Letter) (width : Nat) (adjacent : Bool) : Shape :=
  if adjacent then .run .digit width (some width) else .run .digit 1 (some (letter.maxDigits width))

/-- The names that a month may have in a text. -/
def monthNames (names : Names) (lenient : Bool) (width : Nat) : List String :=
  if lenient then names.months ++ names.shortMonths
  else if width = 3 then names.shortMonths
  else names.months

/-- The names that a weekday may have in a text. -/
def weekdayNames (names : Names) (lenient : Bool) (width : Nat) : List String :=
  if lenient then names.weekdays ++ names.shortWeekdays
  else if width ≤ 3 then names.shortWeekdays
  else names.weekdays

/-- The shape of a field's piece of a text. -/
def fieldShape (names : Names) (lenient : Bool) (letter : Letter) (width : Nat) (adjacent : Bool) : Shape :=
  if letter.isNumeric width then numberShape letter width adjacent
  else match letter with
    | .month | .standaloneMonth => namesShape (monthNames names lenient width)
    | .weekday => namesShape (weekdayNames names lenient width)
    | .halfDay => namesShape [names.forenoon, names.afternoon]
    | _ => zoneShape letter

/-- The shape of a token's piece of a text, before the token `next` if there is one. -/
def Token.shape (names : Names) (lenient : Bool) (next : Option Token) : Token → Shape
  | .literal text => .word text
  | .field letter width => fieldShape names lenient letter width (next.any Token.isNumeric)

/-- The shapes of the pieces of a text, one for each token. -/
def tokenShapes (names : Names) (lenient : Bool) : List Token → List Shape
  | [] => []
  | token :: rest => token.shape names lenient rest.head? :: tokenShapes names lenient rest

/-- The pieces of a text, one for each token of the pattern. A strict pattern leaves no rest. -/
def DatePattern.pieces? (p : DatePattern) (text : List Char) : Option (List (List Char)) :=
  cutAll p.lenient (fun rest => p.lenient || rest.isEmpty) (tokenShapes p.names p.lenient p.tokens) text

theorem length_tokenShapes (names : Names) (lenient : Bool) (tokens : List Token) :
    (tokenShapes names lenient tokens).length = tokens.length := by
  induction tokens with
  | nil => rfl
  | cons token rest ih => simp [tokenShapes, ih]

end CivilTime
