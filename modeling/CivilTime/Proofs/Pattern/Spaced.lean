import CivilTime.Proofs.Pattern.Taken
import CivilTime.Proofs.Text.Unique

/-!
# Numbers with literals between them

In front of a literal that begins with no digit there is one way to cut a number off a text, and then one way to cut off the
literal (`cutAll_number_literal`). So a text that begins with such numbers and literals (`Spaced`) is cut into them, if it is
cut at all, and the rest of it decides whether it is (`cutAll_spaced`).
-/

namespace CivilTime

/-- Numbers, each with a literal after it that begins with no digit. -/
inductive Spaced : List Token → Prop where
  | nil : Spaced []
  | cons {letter : Letter} {width : Nat} {c : Char} {text : List Char} {tokens : List Token} :
      letter.isNumeric width = true → isDigit c = false → Spaced tokens →
      Spaced (.field letter width :: .literal (c :: text) :: tokens)

/-! ### One way to cut -/

private theorem findSome?_eq_of_forall {α β : Type} {l : List α} {f : α → Option β} {a : α} (ha : a ∈ l)
    (h : ∀ b ∈ l, f b = f a ∨ f b = none) : l.findSome? f = f a := by
  induction l with
  | nil => cases ha
  | cons b l ih =>
    rw [List.findSome?_cons]
    cases hb : f b with
    | some found =>
      rcases h b List.mem_cons_self with e | e
      · exact hb.symm.trans e
      · rw [hb] at e
        cases e
    | none =>
      rcases List.mem_cons.1 ha with rfl | ha
      · -- nothing is found later either
        rw [hb, List.findSome?_eq_none_iff]
        intro c hc
        rcases h c (List.mem_cons_of_mem _ hc) with e | e
        · rw [e, hb]
        · exact e
      · exact ih ha fun c hc => h c (List.mem_cons_of_mem _ hc)

variable {anyCase : Bool} {accepts : List Char → Bool} {shape : Shape} {shapes : List Shape} {piece rest : List Char}

/-- If the text can be cut further after one piece of the shape only, then that is the piece which is cut off. -/
theorem cutAll_cons_of_forced (hmatch : shape.Matches anyCase piece)
    (hothers : ∀ other left, piece ++ rest = other ++ left → shape.Matches anyCase other → other ≠ piece →
      cutAll anyCase accepts shapes left = none) :
    cutAll anyCase accepts (shape :: shapes) (piece ++ rest) =
      (cutAll anyCase accepts shapes rest).map (piece :: ·) := by
  have hmem : (piece.length, rest) ∈ shape.cuts anyCase (piece ++ rest) :=
    Shape.mem_cuts_iff.2 ⟨piece, rfl, rfl, hmatch⟩
  rw [cutAll_cons, findSome?_eq_of_forall hmem]
  · dsimp only
    rw [List.take_left]
  · rintro ⟨n, left⟩ hcut
    obtain ⟨other, rfl, he, hother⟩ := Shape.mem_cuts_iff.1 hcut
    by_cases hsame : other = piece
    · subst hsame
      rw [List.append_cancel_left he]
      exact .inl rfl
    · right
      dsimp only
      rw [hothers other left he hother hsame]
      rfl

theorem cutAll_word (w : List Char) :
    cutAll anyCase accepts (.word w :: shapes) (w ++ rest) = (cutAll anyCase accepts shapes rest).map (w :: ·) := by
  have hmatch : (Shape.word w).Matches anyCase w := by
    refine .words List.mem_cons_self ?_
    obtain ⟨piece, hlen, he, hsame⟩ := restAfter?_eq_some_iff.1 (restAfter?_append anyCase w rest)
    obtain rfl : w = piece := (List.append_inj he hlen.symm).1
    exact hsame
  exact cutAll_cons_of_forced hmatch fun other left he hother hne =>
    absurd (append_inj_of_word hother hmatch he.symm).1 hne

/-- A literal that begins with no digit does not fit where a digit follows. -/
private theorem cutAll_word_digit {c d : Char} {text cs : List Char} (hc : isDigit c = false) (hd : isDigit d = true) :
    cutAll anyCase accepts (.word (c :: text) :: shapes) (d :: cs) = none := by
  have hother : sameUpToCase anyCase c d = false := by
    rw [← Bool.not_eq_true]
    intro hsame
    have hdigit : isDigit c = true := by
      cases anyCase with
      | false =>
        rw [beq_iff_eq.1 (show (c == d) = true from hsame)]
        exact hd
      | true =>
        apply isDigit_of_isDigit_foldCase
        rw [beq_iff_eq.1 (show (foldCase c == foldCase d) = true from hsame), foldCase_of_isDigit hd]
        exact hd
    rw [hc] at hdigit
    cases hdigit
  have hcuts : (Shape.word (c :: text)).cuts anyCase (d :: cs) = [] := by
    refine Shape.cuts_words_nil fun w hw => ?_
    rw [List.mem_singleton.1 hw, restAfter?, hother]
    rfl
  rw [cutAll_cons, hcuts]
  rfl

/-- A number in front of a literal that begins with no digit goes up to the literal. -/
theorem cutAll_number_literal {letter : Letter} {width : Nat} {digits : List Char} {c : Char} {text : List Char}
    (hmatch : (numberShape letter width false).Matches anyCase digits) (hc : isDigit c = false) :
    cutAll anyCase accepts (numberShape letter width false :: .word (c :: text) :: shapes)
        (digits ++ (c :: text ++ rest)) =
      (cutAll anyCase accepts shapes rest).map fun pieces => digits :: (c :: text) :: pieces := by
  rw [cutAll_cons_of_forced hmatch, cutAll_word, Option.map_map]
  · rfl
  · intro other left he hother hne
    rcases List.append_eq_append_iff.1 he with ⟨more, rfl, hleft⟩ | ⟨more, rfl, rfl⟩
    · cases more with
      | nil => exact absurd (List.append_nil digits) hne
      | cons d more =>
        obtain rfl : c = d := (List.cons.inj hleft).1
        have hdigit := (matches_numberShape_iff.1 hother).1 c (List.mem_append_right _ List.mem_cons_self)
        rw [hc] at hdigit
        cases hdigit
    · cases more with
      | nil => exact absurd (List.append_nil other).symm hne
      | cons d more =>
        have hdigit := (matches_numberShape_iff.1 hmatch).1 d (List.mem_append_right _ List.mem_cons_self)
        exact cutAll_word_digit hc hdigit

/-! ### Written moments -/

variable {names : Names} {m : Moment} {body tail : List Token}

theorem matches_writeField_number {letter : Letter} {width : Nat} (hm : m.time.isSupported = true)
    (h : letter.isNumeric width = true) (hwidth : width ≤ letter.maxDigits width) :
    (numberShape letter width false).Matches anyCase (writeField names letter width m).toList := by
  have hle := length_padded_number_le hm letter width
  have hmax := letter.digits_le_maxDigits width
  rw [writeField_number h, matches_numberShape_iff]
  refine ⟨fun c hc => isDigit_of_char (isDigit_of_mem_padded hc), length_padded_pos _ _, ?_⟩
  omega

/-- The pieces that the numbers and literals wrote are cut off as they are, and the rest is cut by the other tokens. -/
theorem cutAll_spaced (hm : m.time.isSupported = true) (h : Spaced body) (hw : WidthsFit body) :
    cutAll anyCase accepts (tokenShapes names true (body ++ tail))
        ((body.map fun token => (token.write names m).toList).flatten ++ rest) =
      (cutAll anyCase accepts (tokenShapes names true tail) rest).map
        ((body.map fun token => (token.write names m).toList) ++ ·) := by
  induction h with
  | nil => simp
  | @cons letter width c text tokens hnum hc hspaced ih =>
    have hfits := (hw.1 hnum).2
    have hshapes : tokenShapes names true (.field letter width :: .literal (c :: text) :: tokens ++ tail) =
        numberShape letter width false :: .word (c :: text) :: tokenShapes names true (tokens ++ tail) := by
      rw [← @fieldShape_of_isNumeric names letter width hnum true false]
      rfl
    have hliteral : (Token.write names m (.literal (c :: text))).toList = c :: text := String.toList_ofList
    have hmatch := @matches_writeField_number anyCase names m letter width hm hnum hfits
    rw [hshapes, List.map_cons, List.map_cons, hliteral, List.flatten_cons, List.flatten_cons, List.append_assoc,
      List.append_assoc]
    change cutAll _ _ _ ((writeField names letter width m).toList ++ _) = _
    rw [cutAll_number_literal hmatch hc, ih hw.tail.tail, Option.map_map]
    rfl

theorem Spaced.zonesAreOffsets (h : Spaced body) : ZonesAreOffsets body := by
  induction h with
  | nil =>
    intro letter width hmem
    cases hmem
  | cons hnum hc hspaced ih =>
    intro letter width hmem hzone
    simp only [List.mem_cons, Token.field.injEq, reduceCtorEq, false_or] at hmem
    rcases hmem with ⟨rfl, rfl⟩ | hmem
    · rw [isNumeric_of_isZone hzone] at hnum
      cases hnum
    · exact ih letter width hmem hzone

end CivilTime
