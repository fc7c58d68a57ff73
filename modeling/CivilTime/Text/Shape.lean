import CivilTime.Text.Casing
import CivilTime.Text.Digit

/-!
# Shapes of text

A shape describes the pieces of text that may stand at one place: one of several words, a run of characters of a class,
and combinations of these. `Shape.Matches` says which pieces have a shape. `Shape.cuts` lists the ways to cut a piece
of the shape off the front of a text in order of preference: an earlier alternative before a later one, a longer run
before a shorter one. `cutAll` cuts one piece after the other and takes the first complete way, in the order that prefers
the choices for earlier pieces. It follows all ways at once and keeps no two that have come to the same place, so that
its effort is bounded by the lengths of text and pattern.
-/

namespace CivilTime

/-- A class of characters. -/
inductive CharClass where
  | digit
  | sign
  | letter
  | nameChar
  deriving DecidableEq, Repr

/-- The characters of a class: decimal digits of any script, the two signs, ASCII letters, and the characters inside a
region's name. -/
def CharClass.holds : CharClass → Char → Bool
  | .digit, c => isDigit c
  | .sign, c => c == '+' || c == '-'
  | .letter, c => c.isAlpha
  | .nameChar, c => c.isAlphanum || c == '_' || c == '+' || c == '-'

/-- Membership in a class, exactly or up to letter case. -/
def CharClass.accepts (k : CharClass) (anyCase : Bool) (c : Char) : Bool :=
  k.holds (if anyCase then foldCase c else c)

/-- What a piece of text may look like. -/
inductive Shape where
  /-- One of the words, the first ones preferred. -/
  | words (ws : List (List Char))
  /-- Between `least` and `most` characters of a class, as many as possible; no upper bound if `most` is absent. -/
  | run (k : CharClass) (least : Nat) (most : Option Nat)
  /-- One piece after the other. -/
  | seq (a b : Shape)
  /-- Either shape, the first one preferred. -/
  | either (a b : Shape)
  /-- Any number of pieces, as many as possible. -/
  | many (a : Shape)
  deriving DecidableEq

/-- A single word. -/
def Shape.word (w : List Char) : Shape := .words [w]

/-- A piece of the shape, or nothing. -/
def Shape.optional (a : Shape) : Shape := .either a (.word [])

/-! ### The pieces of a shape -/

/-- Agreement of two texts, exactly or up to letter case. -/
def sameTexts (anyCase : Bool) : List Char → List Char → Bool
  | [], [] => true
  | a :: as, b :: bs => sameUpToCase anyCase a b && sameTexts anyCase as bs
  | _, _ => false

/-- The texts of a shape. -/
inductive Shape.Matches (anyCase : Bool) : Shape → List Char → Prop where
  | words {ws w cs} : w ∈ ws → sameTexts anyCase w cs = true → Matches anyCase (.words ws) cs
  | run {k least most cs} : (∀ c ∈ cs, k.accepts anyCase c = true) → least ≤ cs.length →
      (∀ m ∈ most, cs.length ≤ m) → Matches anyCase (.run k least most) cs
  | seq {a b cs ds} : Matches anyCase a cs → Matches anyCase b ds → Matches anyCase (.seq a b) (cs ++ ds)
  | first {a b cs} : Matches anyCase a cs → Matches anyCase (.either a b) cs
  | second {a b cs} : Matches anyCase b cs → Matches anyCase (.either a b) cs
  | none {a} : Matches anyCase (.many a) []
  | more {a cs ds} : Matches anyCase a cs → Matches anyCase (.many a) ds → Matches anyCase (.many a) (cs ++ ds)

/-! ### Cutting a piece off the front -/

/-- What follows a word at the front of a text, if the text begins with the word. -/
def restAfter? (anyCase : Bool) : List Char → List Char → Option (List Char)
  | [], cs => some cs
  | _ :: _, [] => none
  | w :: ws, c :: cs => if sameUpToCase anyCase w c then restAfter? anyCase ws cs else none

/-- The runs at the front of a text that have an admissible length, longest first, before those already `found`; the
first `taken` characters of the run are gone. -/
def cutRuns (accepts : Char → Bool) (least : Nat) (most : Option Nat) (taken : Nat) (found : List (Nat × List Char)) :
    List Char → List (Nat × List Char)
  | [] => if least ≤ taken then (taken, []) :: found else found
  | c :: cs =>
    let found := if least ≤ taken then (taken, c :: cs) :: found else found
    if accepts c && most.all (taken < ·) then cutRuns accepts least most (taken + 1) found cs else found

/-- Repeated cuts, none of them empty and at most one for each character of `bound`; more pieces are preferred to
fewer. -/
def cutMany (cut : List Char → List (Nat × List Char)) : List Char → List Char → List (Nat × List Char)
  | [], cs => [(0, cs)]
  | _ :: bound, cs =>
    (cut cs).flatMap (fun (n, rest) =>
      if n = 0 then [] else (cutMany cut bound rest).map fun (m, rest) => (n + m, rest)) ++ [(0, cs)]

/-- The ways to cut a piece of the shape off the front of a text, in order of preference: the length of the piece, and
what follows it. -/
def Shape.cuts (anyCase : Bool) : Shape → List Char → List (Nat × List Char)
  | .words ws, cs => ws.filterMap fun w => (restAfter? anyCase w cs).map fun rest => (w.length, rest)
  | .run k least most, cs => cutRuns (k.accepts anyCase) least most 0 [] cs
  | .seq a b, cs =>
    (a.cuts anyCase cs).flatMap fun (n, rest) => (b.cuts anyCase rest).map fun (m, rest) => (n + m, rest)
  | .either a b, cs => a.cuts anyCase cs ++ b.cuts anyCase cs
  | .many a, cs => cutMany (a.cuts anyCase) cs cs

/-! ### Collecting cuts

Cuts are counted from the place where the whole text begins, and are put in front of cuts that are found already, so that
no list is copied. -/

/-- The cuts of a text after one of the words, in front of those already found. -/
def addWords (anyCase : Bool) (ws : List (List Char)) (place : Nat) (found : List (Nat × List Char))
    (cs : List Char) : List (Nat × List Char) :=
  ws.foldr (fun w found =>
    match restAfter? anyCase w cs with
    | some rest => (place + w.length, rest) :: found
    | none => found) found

/-- The repeated cuts of a text, in front of those already found. -/
def addMany (cut : Nat → List Char → List (Nat × List Char)) :
    List Char → Nat → List (Nat × List Char) → List Char → List (Nat × List Char)
  | [], place, found, cs => (place, cs) :: found
  | _ :: bound, place, found, cs =>
    (cut place cs).foldr (fun (next, rest) found =>
      if next = place then found else addMany cut bound next found rest) ((place, cs) :: found)

/-- The cuts of a text that begins at `place`, in front of those already found. -/
def Shape.addCuts (anyCase : Bool) : Shape → Nat → List (Nat × List Char) → List Char → List (Nat × List Char)
  | .words ws, place, found, cs => addWords anyCase ws place found cs
  | .run k least most, place, found, cs =>
    cutRuns (k.accepts anyCase) (place + least) (most.map (place + ·)) place found cs
  | .seq a b, place, found, cs =>
    (a.addCuts anyCase place [] cs).foldr (fun (next, rest) found => b.addCuts anyCase next found rest) found
  | .either a b, place, found, cs => a.addCuts anyCase place (b.addCuts anyCase place found cs) cs
  | .many a, place, found, cs => addMany (fun place cs => a.addCuts anyCase place [] cs) cs place found cs

/-! ### Cutting one piece after the other -/

/-- A text of which some pieces are cut off: their lengths, the last one first, the place that is reached, and what
follows it. -/
structure Cutting where
  lengths : List Nat
  place : Nat
  rest : List Char
  deriving DecidableEq, Repr

/-- The cuttings that are followed, with a mark for each place of the text: the number of the last shape after which it
was reached. -/
structure Frontier where
  marks : Array Nat
  cuttings : List Cutting
  deriving Repr

/-- The frontier with one more cutting, unless its place is reached after the shape of that number already. Of the
cuttings that reach a place only the most preferred one is needed, because what follows depends on the rest alone. -/
@[inline]
def Frontier.add (number : Nat) (f : Frontier) (cutting : Cutting) : Frontier :=
  if f.marks.getD cutting.place 0 = number then f
  else ⟨f.marks.setIfInBounds cutting.place number, cutting :: f.cuttings⟩

/-- The frontier with the cuttings that go on from one cutting by the given cuts, which lead from its place to others. -/
def Frontier.addAll (number : Nat) (cutting : Cutting) (f : Frontier) (cuts : List (Nat × List Char)) : Frontier :=
  cuts.foldl (fun (f : Frontier) (place, rest) =>
    f.add number ⟨(place - cutting.place) :: cutting.lengths, place, rest⟩) f

/-- The ways to go on from the cuttings of a frontier with a piece of the shape of that number. -/
def Frontier.next (anyCase : Bool) (number : Nat) (shape : Shape) (f : Frontier) : Frontier :=
  let next := f.cuttings.foldl (fun (next : Frontier) cutting =>
    Frontier.addAll number cutting next (shape.addCuts anyCase cutting.place [] cutting.rest)) ⟨f.marks, []⟩
  ⟨next.marks, next.cuttings.reverse⟩

/-- The cuttings of a text after pieces of all shapes, the first of which has the given number. -/
def Frontier.follow (anyCase : Bool) : Nat → List Shape → Frontier → List Cutting
  | _, [], f => f.cuttings
  | number, shape :: shapes, f => Frontier.follow anyCase (number + 1) shapes (f.next anyCase number shape)

/-- The frontier of a text of which nothing is cut off. -/
def Frontier.start (cs : List Char) : Frontier :=
  ⟨Array.replicate (cs.length + 1) 0, [⟨[], 0, cs⟩]⟩

/-- The pieces of a text that have the given lengths, one after the other. -/
def piecesOf : List Nat → List Char → List (List Char)
  | [], _ => []
  | n :: lengths, cs => cs.take n :: piecesOf lengths (cs.drop n)

/-- The first way to cut a text into pieces of the given shapes with an acceptable rest. -/
def cutAll (anyCase : Bool) (accepts : List Char → Bool) (shapes : List Shape) (cs : List Char) :
    Option (List (List Char)) :=
  ((Frontier.follow anyCase 1 shapes (.start cs)).find? fun cutting => accepts cutting.rest).map fun cutting =>
    piecesOf cutting.lengths.reverse cs

end CivilTime
