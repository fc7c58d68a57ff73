import CivilTime.Text.Casing.Table

/-!
# Letter case

Three views of letter case are kept apart. `foldCase` sends a character to one representative of all characters that
case-insensitive matching identifies with it, so that matching is equality of representatives (`sameUpToCase`);
`s` and the long s, `i` and both Turkish i, `k` and the Kelvin sign have one representative each. `lowerText` and
`upperText` are the lower- and upper-case forms of a text, which keep more apart than matching does: the long s has the
upper-case form `S`, but it is its own lower-case form.
-/

namespace CivilTime

/-- The lower-case form of a character, when it is a single character. -/
def lowerChar (c : Char) : Char :=
  if c.toNat < 0x80 then c.toLower
  else match caseRuns.find? (·.holds c.toNat) with
    | some run => Char.ofNat (c.toNat + run.shift).toNat
    | none => c

/-- Lower-case letters that match another lower-case letter, with that letter. -/
def caseVariants : List (Nat × Nat) := [
  (0x131, 0x69), (0x17F, 0x73), (0x3B9, 0x345), (0x3BC, 0xB5), (0x3C3, 0x3C2), (0x3D0, 0x3B2),
  (0x3D1, 0x3B8), (0x3D5, 0x3C6), (0x3D6, 0x3C0), (0x3F0, 0x3BA), (0x3F1, 0x3C1), (0x3F5, 0x3B5),
  (0x1C80, 0x432), (0x1C81, 0x434), (0x1C82, 0x43E), (0x1C83, 0x441), (0x1C84, 0x442), (0x1C85, 0x442),
  (0x1C86, 0x44A), (0x1C87, 0x463), (0x1E9B, 0x1E61), (0x1FBE, 0x345), (0x1FD3, 0x390), (0x1FE3, 0x3B0),
  (0xA64B, 0x1C88), (0xFB06, 0xFB05)]

/-- The representative of the characters that agree with `c` up to letter case. -/
def foldCase (c : Char) : Char :=
  let low := lowerChar c
  if low.toNat < 0x80 then low
  else match caseVariants.lookup low.toNat with
    | some n => Char.ofNat n
    | none => low

/-- Agreement of two characters, exactly or up to letter case. -/
def sameUpToCase (anyCase : Bool) (a b : Char) : Bool :=
  if anyCase then foldCase a == foldCase b else a == b

theorem sameUpToCase_false (a b : Char) : sameUpToCase false a b = (a == b) := rfl

theorem sameUpToCase_refl (anyCase : Bool) (a : Char) : sameUpToCase anyCase a a = true := by
  cases anyCase <;> simp [sameUpToCase]

/-! ### Whole texts -/

/-- The lower-case form of a text; the dotted capital I is the one character with a lower-case form of two. -/
def lowerText (cs : List Char) : List Char :=
  cs.flatMap fun c => if c.toNat == 0x130 then [Char.ofNat 0x69, Char.ofNat 0x307] else [lowerChar c]

/-- The characters outside ASCII that have an ASCII upper-case form, with that form. -/
def asciiCapitals : List (Nat × String) := [
  (0xDF, "SS"), (0x131, "I"), (0x17F, "S"), (0xFB00, "FF"), (0xFB01, "FI"), (0xFB02, "FL"), (0xFB03, "FFI"),
  (0xFB04, "FFL"), (0xFB05, "ST"), (0xFB06, "ST")]

/-- The upper-case form of a text, as far as that form is ASCII; other characters stay. -/
def upperText (cs : List Char) : List Char :=
  cs.flatMap fun c =>
    if c.toNat < 0x80 then [c.toUpper]
    else match asciiCapitals.lookup c.toNat with
      | some capitals => capitals.toList
      | none => [c]

end CivilTime
