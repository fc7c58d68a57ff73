import CivilTime.Pattern.Grammar
import CivilTime.Proofs.Text.Folding
import CivilTime.Proofs.Text.Preferred
import CivilTime.Proofs.Text.Unique

/-!
# Names of regions in text

A name in the form of region names is taken as a whole at the end of a date text, exactly or in any letter case
(`prefers_region`). Its parts consist of letters, digits and signs, none of which is the slash between the parts, so each part
goes up to the next slash.
-/

namespace CivilTime

variable {cs : List Char} {anyCase : Bool}

/-! ### Characters -/

private theorem accepts_letter {c : Char} (h : CharClass.letter.accepts false c = true) :
    CharClass.letter.accepts anyCase c = true := by
  cases anyCase with
  | false => exact h
  | true => exact isAlpha_foldCase h

private theorem accepts_nameChar {c : Char} (h : CharClass.nameChar.accepts false c = true) :
    CharClass.nameChar.accepts anyCase c = true := by
  cases anyCase with
  | false => exact h
  | true =>
    change ((c.isAlphanum || c == '_') || c == '+' || c == '-') = true at h
    simp only [Char.isAlphanum, Bool.or_eq_true, beq_iff_eq] at h
    rcases h with (((halpha | hdigit) | rfl) | rfl) | rfl
    · change ((foldCase c).isAlphanum || _ || _ || _) = true
      unfold Char.isAlphanum
      rw [isAlpha_foldCase halpha]
      rfl
    · change CharClass.nameChar.holds (foldCase c) = true
      rw [foldCase_of_isDigit (isDigit_of_char hdigit)]
      change ((c.isAlpha || c.isDigit) || _ || _ || _) = true
      rw [hdigit, Bool.or_true]
      rfl
    · decide
    · decide
    · decide

/-- A part of a name ends where the name does, or in front of a slash. -/
private theorem prefers_part {least : Nat} {rest : List Char}
    (hall : ∀ c ∈ cs, CharClass.nameChar.accepts false c = true) (hleast : least ≤ cs.length)
    (hrest : ∀ c ∈ rest.head?, c = '/') : (Shape.run .nameChar least none).Prefers anyCase cs rest := by
  refine Shape.prefers_run (fun c hc => accepts_nameChar (hall c hc)) hleast (fun m hm => by cases hm) (.inr ?_)
  intro c hc
  rw [hrest c hc]
  cases anyCase <;> decide

/-! ### Parts -/

/-- A part of a name with the slash in front of it. -/
private def partShape : Shape := .seq (.word ['/']) (.run .nameChar 1 none)

/-- Parts with a slash in front of each are taken one by one. -/
private theorem head?_cutMany_parts {s : Shape} (h : s.Matches false cs) (hs : s = .many partShape) :
    (∀ c ∈ cs.head?, c = '/') ∧ ∀ bound : List Char, cs.length ≤ bound.length →
      (cutMany (partShape.cuts anyCase) bound cs).head? = some (cs.length, []) := by
  induction h with
  | none =>
    refine ⟨fun c hc => (by cases hc), fun bound _ => ?_⟩
    cases bound <;> rfl
  | @more part piece cs hpiece _ _ ih =>
    cases hs
    obtain ⟨hslash, hrest⟩ := ih rfl
    obtain ⟨front, name, rfl, hfront, hname⟩ := Shape.matches_seq_iff.1 hpiece
    obtain rfl := Shape.matches_word_iff.1 hfront
    obtain ⟨hall, hleast, -⟩ := Shape.matches_run_iff.1 hname
    have hprefers : partShape.Prefers anyCase (['/'] ++ name) cs :=
      Shape.prefers_seq (Shape.prefers_word anyCase ['/'] _) (prefers_part hall hleast hslash)
    refine ⟨fun c hc => (Option.some.inj hc).symm, fun bound hbound => ?_⟩
    rw [head?_cutMany_append (by simp) hprefers hrest hbound, ← List.length_append]
  | _ => cases hs

/-- A name in the form of region names is taken as a whole. -/
theorem prefers_region (h : regionShape.Matches false cs) : regionShape.Prefers anyCase cs [] := by
  obtain ⟨first, more, rfl, hfirst, hmore⟩ := Shape.matches_seq_iff.1 h
  obtain ⟨front, parts, rfl, hfront, hparts⟩ := Shape.matches_seq_iff.1 hmore
  obtain ⟨hletter, hone, hone'⟩ := Shape.matches_run_iff.1 hfirst
  obtain ⟨hall, hnone, -⟩ := Shape.matches_run_iff.1 hfront
  obtain ⟨hslash, hrest⟩ := @head?_cutMany_parts parts anyCase _ hparts rfl
  have hlen : first.length = 1 := Nat.le_antisymm (hone' 1 rfl) hone
  refine Shape.prefers_seq (Shape.prefers_run (fun c hc => accepts_letter (hletter c hc)) hone hone' (.inl ?_))
    (Shape.prefers_seq (prefers_part hall hnone (by rwa [List.append_nil])) ?_)
  · rw [hlen]
  · unfold Shape.Prefers
    rw [List.append_nil]
    exact hrest parts (Nat.le_refl _)

end CivilTime
