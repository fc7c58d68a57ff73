import CivilTime.Pattern.Letter
import CivilTime.Text.Quoted

/-!
# Pattern tokens

A date pattern is a row of fields and literals. A run of one ASCII letter is a field; text between apostrophes is
literal, a doubled apostrophe is an apostrophe, inside quotes and outside, and every other character stands for itself.
`tokens` splits a pattern; neighbouring literal characters end up in one token. A pattern is flawed if it holds an ASCII
letter that stands for no field, or quotes that are not closed.
-/

namespace CivilTime

/-- A part of a date pattern: a field with its width, or literal text. -/
inductive Token where
  | field (letter : Letter) (width : Nat)
  | literal (text : List Char)
  deriving DecidableEq, Repr

/-- Whether a token is a field in digits. -/
def Token.isNumeric : Token → Bool
  | .field letter width => letter.isNumeric width
  | .literal _ => false

/-- What may be wrong with a pattern. -/
inductive PatternFlaw where
  | openQuote
  | unknownLetter (c : Char)
  deriving DecidableEq, Repr

/-- The flaw in words. -/
def PatternFlaw.message : PatternFlaw → String
  | .openQuote => "unterminated quote"
  | .unknownLetter c => "illegal pattern character " ++ quoted (String.singleton c)

/-! ### Splitting a pattern -/

/-- The tokens after a letter: a field of the same letter at their front becomes wider. -/
def putLetter (letter : Letter) : List Token → List Token
  | .field next width :: rest =>
    if next = letter then .field letter (width + 1) :: rest else .field letter 1 :: .field next width :: rest
  | rest => .field letter 1 :: rest

/-- The tokens after a literal character: literal text at their front becomes longer. -/
def putChar (c : Char) : List Token → List Token
  | .literal text :: rest => .literal (c :: text) :: rest
  | rest => .literal [c] :: rest

/-- The tokens of the rest of a pattern that begins outside or inside quotes. -/
def tokensFrom (quotes : Bool) : List Char → Except PatternFlaw (List Token)
  | [] => if quotes then .error .openQuote else .ok []
  | c :: cs =>
    if c = apostrophe then
      match cs with
      | [] => if quotes then .ok [] else .error .openQuote
      | d :: rest =>
        if d = apostrophe then (tokensFrom quotes rest).map (putChar apostrophe)
        else tokensFrom (!quotes) (d :: rest)
    else if !quotes && c.isAlpha then
      match Letter.ofChar? c with
      | none => .error (.unknownLetter c)
      | some letter => (tokensFrom quotes cs).map (putLetter letter)
    else (tokensFrom quotes cs).map (putChar c)

/-- The tokens of a pattern. -/
def tokens (pattern : List Char) : Except PatternFlaw (List Token) :=
  tokensFrom false pattern

end CivilTime
