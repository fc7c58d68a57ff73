import CivilTime.Pattern.Token

/-!
# The fields that a pattern names

Several fields of a pattern may stand for one part of a moment: fields of one letter, and letters with one meaning. Such a
part is named if one of its letters occurs (`Named`), and then there is a last field for it (`lastField?`).
-/

namespace CivilTime

/-- The letter and the width of a field that has one of the letters. -/
def Token.fieldOf? (letters : List Letter) : Token → Option (Letter × Nat)
  | .field letter width => if letter ∈ letters then some (letter, width) else none
  | .literal _ => none

/-- The last field with one of the letters. -/
def lastField? (letters : List Letter) (tokens : List Token) : Option (Letter × Nat) :=
  tokens.reverse.findSome? (Token.fieldOf? letters)

/-- A field with one of the letters occurs. -/
def Named (letters : List Letter) (tokens : List Token) : Prop :=
  ∃ letter ∈ letters, ∃ width, Token.field letter width ∈ tokens

variable {letters : List Letter} {letter : Letter} {width : Nat} {tokens : List Token}

private theorem fieldOf?_field (letters : List Letter) (letter : Letter) (width : Nat) :
    (Token.field letter width).fieldOf? letters = if letter ∈ letters then some (letter, width) else none := rfl

@[simp] theorem lastField?_literal (letters : List Letter) (tokens : List Token) (text : List Char) :
    lastField? letters (tokens ++ [.literal text]) = lastField? letters tokens := by
  unfold lastField?
  rw [List.reverse_append, List.reverse_singleton, List.singleton_append, List.findSome?_cons]
  rfl

@[simp] theorem lastField?_field (letters : List Letter) (tokens : List Token) (letter : Letter) (width : Nat) :
    lastField? letters (tokens ++ [.field letter width]) =
      if letter ∈ letters then some (letter, width) else lastField? letters tokens := by
  unfold lastField?
  rw [List.reverse_append, List.reverse_singleton, List.singleton_append, List.findSome?_cons, fieldOf?_field]
  by_cases h : letter ∈ letters
  · rw [if_pos h, if_pos h]
  · rw [if_neg h, if_neg h]

theorem mem_of_lastField? (h : lastField? letters tokens = some (letter, width)) :
    letter ∈ letters ∧ Token.field letter width ∈ tokens := by
  obtain ⟨token, htoken, hfield⟩ := List.exists_of_findSome?_eq_some h
  rw [List.mem_reverse] at htoken
  cases token with
  | literal text => cases hfield
  | field next w =>
    rw [fieldOf?_field] at hfield
    split at hfield
    · rename_i hnext
      cases hfield
      exact ⟨hnext, htoken⟩
    · cases hfield

theorem named_iff : Named letters tokens ↔ (lastField? letters tokens).isSome = true := by
  constructor
  · rintro ⟨letter, hletter, width, hmem⟩
    unfold lastField?
    rw [List.findSome?_isSome_iff]
    refine ⟨.field letter width, List.mem_reverse.2 hmem, ?_⟩
    rw [fieldOf?_field, if_pos hletter]
    rfl
  · intro h
    obtain ⟨⟨letter, width⟩, hlast⟩ := Option.isSome_iff_exists.1 h
    obtain ⟨hletter, hmem⟩ := mem_of_lastField? hlast
    exact ⟨letter, hletter, width, hmem⟩

instance (letters : List Letter) (tokens : List Token) : Decidable (Named letters tokens) :=
  decidable_of_iff _ named_iff.symm

theorem Named.exists_lastField? (h : Named letters tokens) : ∃ field, lastField? letters tokens = some field :=
  Option.isSome_iff_exists.1 (named_iff.1 h)

theorem lastField?_eq_none (h : ¬Named letters tokens) : lastField? letters tokens = none := by
  rw [named_iff, Option.not_isSome_iff_eq_none] at h
  exact h

@[simp] theorem not_named_nil (letters : List Letter) : ¬Named letters [] := by
  rintro ⟨letter, -, width, h⟩
  cases h

@[simp] theorem named_literal (letters : List Letter) (tokens : List Token) (text : List Char) :
    Named letters (tokens ++ [.literal text]) ↔ Named letters tokens := by
  rw [named_iff, named_iff, lastField?_literal]

@[simp] theorem named_field (letters : List Letter) (tokens : List Token) (letter : Letter) (width : Nat) :
    Named letters (tokens ++ [.field letter width]) ↔ letter ∈ letters ∨ Named letters tokens := by
  rw [named_iff, named_iff, lastField?_field]
  by_cases h : letter ∈ letters
  · rw [if_pos h, Option.isSome_some]
    exact ⟨fun _ => .inl h, fun _ => rfl⟩
  · rw [if_neg h]
    exact ⟨.inr, fun hor => hor.resolve_left h⟩

theorem named_cons (letter : Letter) (letters : List Letter) (tokens : List Token) :
    Named (letter :: letters) tokens ↔ Named [letter] tokens ∨ Named letters tokens := by
  constructor
  · rintro ⟨l, hl, width, hmem⟩
    rcases List.mem_cons.1 hl with rfl | hl
    · exact .inl ⟨l, List.mem_cons_self, width, hmem⟩
    · exact .inr ⟨l, hl, width, hmem⟩
  · rintro (⟨l, hl, width, hmem⟩ | ⟨l, hl, width, hmem⟩)
    · exact ⟨l, List.mem_cons.2 (.inl (List.mem_singleton.1 hl)), width, hmem⟩
    · exact ⟨l, List.mem_cons_of_mem _ hl, width, hmem⟩

/-! ### Letters of one kind -/

/-- The letters for zones that are written as offsets. -/
def offsetLetters : List Letter := [.offset, .isoOffset, .isoDigits, .gmtOffset]

/-- The letters for zones and their offsets. -/
def zoneLetters : List Letter := [.zoneName, .zoneId] ++ offsetLetters

/-- The letters for hours on another clock than that from 0 to 23. -/
def clockLetters : List Letter := [.hourFromOne, .halfDayHour, .clockHour]

end CivilTime
