/-!
# Blanks and lines

A setting is read from the first line of a file (`firstLine`) without the blanks at its ends (`stripped`). Blanks are the
spaces of all scripts and the control characters that separate words, lines and fields. A path is cut at the first
occurrence of a directory (`textAfter?`).
-/

namespace CivilTime

/-- Whether a character is blank. -/
def isBlank (c : Char) : Bool :=
  let n := c.toNat
  (0x9 ≤ n && n ≤ 0xD) || (0x1C ≤ n && n ≤ 0x20) || n == 0x85 || n == 0xA0 || n == 0x1680 ||
    (0x2000 ≤ n && n ≤ 0x200A) || n == 0x2028 || n == 0x2029 || n == 0x202F || n == 0x205F || n == 0x3000

/-- The text without blanks at its ends. -/
def stripped (cs : List Char) : List Char :=
  ((cs.dropWhile isBlank).reverse.dropWhile isBlank).reverse

/-- The first line of a text, without the line feed or carriage return that ends it. -/
def firstLine (cs : List Char) : List Char :=
  cs.takeWhile fun c => c != '\n' && c != '\r'

/-- What follows the first occurrence of `mark` in a text, if it occurs. -/
def textAfter? (mark : List Char) : List Char → Option (List Char)
  | [] => if mark.isEmpty then some [] else none
  | c :: cs => if mark.isPrefixOf (c :: cs) then some ((c :: cs).drop mark.length) else textAfter? mark cs

end CivilTime
