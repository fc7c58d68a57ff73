import CivilTime.Text.Quoted.Table

/-!
# Quoted text

Messages show the texts they speak of in quotes, on one line and with everything invisible written out (`quoted`).
Apostrophes delimit the text unless it holds an apostrophe and no quotation mark (`delimiter`); the delimiter and the
backslash are escaped in it, tab, line feed and carriage return have short escapes, and every other unprintable
character is written by its code point in two, four or eight hexadecimal digits.
-/

namespace CivilTime

/-- The apostrophe. -/
def apostrophe : Char := Char.ofNat 0x27

/-- The quotation mark. -/
def quotationMark : Char := Char.ofNat 0x22

/-- Whether a character is written by its code point. -/
def isUnprintable (c : Char) : Bool :=
  if c.toNat < 0x7F then c.toNat < 0x20
  else unprintableRanges.any fun range => range.1 ≤ c.toNat && c.toNat ≤ range.2

/-- A number in lower-case hexadecimal, filled up with zeros to `width` digits. -/
private def hexPadded (width n : Nat) : List Char :=
  let digits := Nat.toDigits 16 n
  List.replicate (width - digits.length) '0' ++ digits

/-- The delimiter of a quoted text: the apostrophe, unless the text holds one and no quotation mark. -/
def delimiter (cs : List Char) : Char :=
  if cs.contains apostrophe && !cs.contains quotationMark then quotationMark else apostrophe

/-- One character of a quoted text. -/
def quotedChar (delim c : Char) : List Char :=
  if c == delim || c == '\\' then ['\\', c]
  else if c == '\t' then ['\\', 't']
  else if c == '\n' then ['\\', 'n']
  else if c == '\r' then ['\\', 'r']
  else if !isUnprintable c then [c]
  else if c.toNat < 0x100 then '\\' :: 'x' :: hexPadded 2 c.toNat
  else if c.toNat < 0x10000 then '\\' :: 'u' :: hexPadded 4 c.toNat
  else '\\' :: 'U' :: hexPadded 8 c.toNat

/-- A text in quotes. -/
def quoted (text : String) : String :=
  let delim := delimiter text.toList
  String.ofList (delim :: text.toList.flatMap (quotedChar delim) ++ [delim])

end CivilTime
