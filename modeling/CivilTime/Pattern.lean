import CivilTime.Error
import CivilTime.Locale

/-!
# Date patterns

A date pattern is a row of tokens together with the names that its texts use, and the way in which it reads them. A strict
pattern reads a text as a whole and letter by letter. A lenient pattern reads the front of a text, in any letter case, and
names of either length.
-/

namespace CivilTime

/-- A date pattern, ready to write and to read. -/
structure DatePattern where
  /-- The pattern as it was given. -/
  text : String
  tokens : List Token
  names : Names
  lenient : Bool
  deriving DecidableEq, Repr

/-- The pattern of a text. -/
def DatePattern.of (text : String) (names : Names) (lenient : Bool) : Except Error DatePattern :=
  match CivilTime.tokens text.toList with
  | .ok tokens => .ok ⟨text, tokens, names, lenient⟩
  | .error flaw => .error (.invalidPattern text flaw)

/-- Whether a text consists of one to three letters for zones, whatever they are; such a pattern is not bound to a zone. -/
def isZonePattern (text : String) : Bool :=
  let cs := text.toList
  1 ≤ cs.length && cs.length ≤ 3 && cs.all "XxZzVO".toList.contains

end CivilTime
