import CivilTime.Proofs.Pattern.Taken
import CivilTime.Proofs.Text.Unique

/-!
# The pieces of texts

A text that is read exactly is split into pieces that the tokens admit, one by one (`IsSplit`). These are the pieces of the
shapes that the search looks for (`isSplit_iff_allMatch`). A piece consists of characters of one class (`Letter.Spells`), is not
empty and begins as its token does (`Token.begins_of_matches`), exactly or as far as matching sees it. Where the pattern is
separable, a piece ends where its class does, so there is one piece of a token at the front of a text
(`Token.append_inj_of_matches`), and at most one way to split a text (`IsSplit.unique`).
-/

namespace CivilTime

/-! ### Pieces and splits -/

/-- The pieces that a token admits in front of the token `next`: the text of a literal; a number of as many digits as its
field is wide if another number follows, or of one digit up to the limit of its letter; a name of its table; and a zone in
the form of its letter. -/
def Token.Admits (names : Names) (next : Option Token) (piece : List Char) : Token → Prop
  | .literal text => piece = text
  | .field letter width =>
    if letter.isNumeric width then
      (∀ c ∈ piece, isDigit c = true) ∧
        if next.any Token.isNumeric then piece.length = width
        else 1 ≤ piece.length ∧ piece.length ≤ letter.maxDigits width
    else if letter.isName width then ∃ name ∈ nameTable names false letter width, piece = name.toList
    else (zoneShape letter).Matches false piece

/-- Every token admits its piece. -/
def IsSplit (names : Names) : List Token → List (List Char) → Prop
  | [], [] => True
  | token :: rest, piece :: pieces => token.Admits names rest.head? piece ∧ IsSplit names rest pieces
  | _, _ => False

variable {names : Names} {lenient anyCase : Bool} {token : Token} {tokens : List Token} {next : Option Token}
  {letter : Letter} {width : Nat} {piece : List Char} {pieces : List (List Char)}

theorem Token.admits_iff_matches : token.Admits names next piece ↔ (token.shape names false next).Matches false piece := by
  cases token with
  | literal text => exact Shape.matches_word_iff.symm
  | field letter width =>
    simp only [Admits, shape]
    rcases letter.kind width with hnum | hname | hzone
    · rw [if_pos hnum, fieldShape_of_isNumeric hnum, matches_numberShape_iff]
    · simp only [isNumeric_of_isName hname, hname, if_true, Bool.false_eq_true, if_false, matches_nameShape_iff hname,
        sameTexts_false]
      exact exists_congr fun name => and_congr Iff.rfl eq_comm
    · simp [isNumeric_of_isZone hzone, isName_of_isZone hzone, fieldShape_of_isZone hzone]

theorem isSplit_iff_allMatch : IsSplit names tokens pieces ↔ AllMatch false (tokenShapes names false tokens) pieces := by
  induction tokens generalizing pieces with
  | nil => cases pieces <;> exact Iff.rfl
  | cons token tokens ih =>
    cases pieces with
    | nil => exact Iff.rfl
    | cons piece pieces => exact and_congr Token.admits_iff_matches ih

/-! ### Zones -/

/-- The characters of zones in texts. -/
def IsZoneChar (c : Char) : Prop :=
  c.isAlpha = true ∨ isDigit c = true ∨ c ∈ ['+', '-', ':', '/', '_']

instance (c : Char) : Decidable (IsZoneChar c) :=
  inferInstanceAs (Decidable (_ ∨ _ ∨ _))

private theorem isZoneChar_of_holds (k : CharClass) {c : Char} (h : k.holds c = true) : IsZoneChar c := by
  cases k with
  | digit => exact .inr (.inl h)
  | sign =>
    simp only [CharClass.holds, Bool.or_eq_true, beq_iff_eq] at h
    rcases h with rfl | rfl <;> decide +kernel
  | letter => exact .inl h
  | nameChar =>
    simp only [CharClass.holds, Char.isAlphanum, Bool.or_eq_true, beq_iff_eq] at h
    rcases h with (((h | h) | rfl) | rfl) | rfl
    · exact .inl h
    · exact .inr (.inl (isDigit_of_char h))
    all_goals decide +kernel

/-- Zones consist of the characters of zones. -/
theorem zoneShape_within (letter : Letter) : (zoneShape letter).Within IsZoneChar := by
  cases letter <;>
    simp only [zoneShape, regionShape, prefixedShape, looseHours, fixedHours, minutesShape, colonMinutes, Shape.optional,
      Shape.word, Shape.Within] <;>
    and_intros <;> first | exact fun c h => isZoneChar_of_holds _ h | exact Shape.within_words (by decide +kernel)

/-- Zones do not begin with a digit. -/
theorem zoneShape_beginsIn (letter : Letter) : (zoneShape letter).BeginsIn (isDigit · = false) := by
  have hsign : ∀ c, CharClass.sign.holds c = true → isDigit c = false := by
    intro c h
    simp only [CharClass.holds, Bool.or_eq_true, beq_iff_eq] at h
    rcases h with rfl | rfl <;> decide +kernel
  have hletter : ∀ c, CharClass.letter.holds c = true → isDigit c = false := fun c h => isDigit_of_isAlpha h
  cases letter <;>
    simp only [zoneShape, regionShape, prefixedShape, Shape.word, Shape.BeginsIn] <;>
    and_intros <;> first | exact hsign | exact hletter | exact Nat.one_pos | exact Shape.beginsIn_words (by decide +kernel)

/-! ### The characters of a piece -/

/-- The characters that a field is written with: digits in a number, letters in a name, and the characters of zones in a
zone. -/
def Letter.Spells (letter : Letter) (width : Nat) (c : Char) : Prop :=
  if letter.isNumeric width then isDigit c = true
  else if letter.isName width then c.isAlpha = true
  else IsZoneChar c

theorem Letter.spells_number {c : Char} (h : letter.isNumeric width = true) :
    letter.Spells width c ↔ isDigit c = true := by
  rw [Spells, if_pos h]

theorem Letter.spells_name {c : Char} (h : letter.isName width = true) :
    letter.Spells width c ↔ c.isAlpha = true := by
  rw [Spells, isNumeric_of_isName h, if_neg Bool.false_ne_true, if_pos h]

theorem Letter.spells_zone {c : Char} (h : letter.isZone = true) : letter.Spells width c ↔ IsZoneChar c := by
  rw [Spells, isNumeric_of_isZone h, if_neg Bool.false_ne_true, isName_of_isZone h, if_neg Bool.false_ne_true]

/-- The characters of names and numbers are characters of zones. -/
theorem Letter.Spells.isZoneChar {c : Char} (h : letter.Spells width c) : IsZoneChar c := by
  rcases letter.kind width with hnum | hname | hzone
  · exact .inr (.inl ((spells_number hnum).1 h))
  · exact .inl ((spells_name hname).1 h)
  · exact (spells_zone hzone).1 h

theorem fieldShape_within (hn : names.Proper) (lenient : Bool) (letter : Letter) (width : Nat) (adjacent : Bool) :
    (fieldShape names lenient letter width adjacent).Within (letter.Spells width) := by
  rcases letter.kind width with hnum | hname | hzone
  · have hdigits : ∀ c, isDigit c = true → letter.Spells width c := fun c h => (Letter.spells_number hnum).2 h
    rw [fieldShape_of_isNumeric hnum, numberShape]
    split <;> exact hdigits
  · rw [fieldShape_of_isName hname]
    intro w hw c hc
    obtain ⟨name, hmem, rfl⟩ := List.mem_map.1 (mem_longestFirst.1 hw)
    exact (Letter.spells_name hname).2
      (List.all_eq_true.1 (isLettered_nameTable hn lenient letter width name hmem).2 c hc)
  · have hspells : letter.Spells width = IsZoneChar := funext fun c => propext (Letter.spells_zone hzone)
    rw [fieldShape_of_isZone hzone, hspells]
    exact zoneShape_within letter

theorem IsZoneChar.seenAs {c : Char} (h : IsZoneChar c) : IsZoneChar (seenAs anyCase c) := by
  cases anyCase with
  | false => exact h
  | true =>
    rcases h with h | h | h
    · exact .inl (isAlpha_foldCase h)
    · exact .inr (.inl ((isDigit_seenAs true c).trans h))
    · have hself : (['+', '-', ':', '/', '_'].all fun d => foldCase d == d) = true := by decide +kernel
      refine .inr (.inr ?_)
      change foldCase c ∈ _
      rwa [beq_iff_eq.1 (List.all_eq_true.1 hself c h)]

theorem Letter.Spells.seenAs {c : Char} (h : letter.Spells width c) : letter.Spells width (seenAs anyCase c) := by
  rcases letter.kind width with hnum | hname | hzone
  · rw [spells_number hnum] at h ⊢
    exact (isDigit_seenAs anyCase c).trans h
  · rw [spells_name hname] at h ⊢
    cases anyCase with
    | false => exact h
    | true => exact isAlpha_foldCase h
  · rw [spells_zone hzone] at h ⊢
    exact h.seenAs

private theorem isAlpha_foldCase_of_seenAs {c : Char} (h : (CivilTime.seenAs anyCase c).isAlpha = true) :
    (foldCase c).isAlpha = true := by
  cases anyCase with
  | false => exact isAlpha_foldCase h
  | true => exact h

/-- What agrees with no ASCII letter, is no digit and none of the other characters of zones is not seen as a character of
zones. -/
theorem not_isZoneChar_seenAs {c : Char} (halpha : (foldCase c).isAlpha = false) (hdigit : isDigit c = false)
    (hmem : c ∉ ['+', '-', ':', '/', '_']) (anyCase : Bool) : ¬IsZoneChar (seenAs anyCase c) := by
  rintro (h | h | h)
  · rw [isAlpha_foldCase_of_seenAs h] at halpha
    cases halpha
  · rw [isDigit_seenAs, hdigit] at h
    cases h
  · have hascii : (['+', '-', ':', '/', '_'].all fun d => d.toNat < 0x80) = true := by decide
    cases anyCase with
    | false => exact hmem h
    | true =>
      change foldCase c ∈ _ at h
      rw [foldCase_eq_of_not_isAlpha (of_decide_eq_true (List.all_eq_true.1 hascii _ h)) halpha] at h
      exact hmem h

/-- A field is not written with a character where it ends. -/
theorem Letter.EndsAt.not_spells {c : Char} (h : letter.EndsAt width c) (anyCase : Bool) :
    ¬letter.Spells width (CivilTime.seenAs anyCase c) := by
  rcases letter.kind width with hnum | hname | hzone
  · rw [spells_number hnum, isDigit_seenAs, h.1 hnum]
    decide
  · rw [spells_name hname]
    intro halpha
    have hno := h.2.1 hname
    rw [isAlpha_foldCase_of_seenAs halpha] at hno
    cases hno
  · obtain ⟨halpha, hdigit, hmem⟩ := h.2.2 hzone
    rw [spells_zone hzone]
    exact not_isZoneChar_seenAs halpha hdigit hmem anyCase

/-! ### The front of a piece -/

/-- The token may begin with a character that matching sees as the given one. -/
def Token.BeginsAs (anyCase : Bool) (c : Char) (token : Token) : Prop :=
  ∃ d, token.BeginsWith d ∧ seenAs anyCase d = seenAs anyCase c

/-- A piece begins as its token does. -/
theorem Token.begins_of_matches (hn : names.Proper) (hoccupies : token.Occupies)
    (h : (token.shape names lenient next).Matches anyCase piece) : ∃ c cs, piece = c :: cs ∧ token.BeginsAs anyCase c := by
  have hwords : ∀ {w : List Char} {d : Char} {v : List Char}, w = d :: v → token.BeginsWith d →
      sameTexts anyCase w piece = true → ∃ c cs, piece = c :: cs ∧ token.BeginsAs anyCase c := by
    rintro w d v rfl hd hsame
    cases hcs : piece with
    | nil =>
      rw [hcs] at hsame
      cases hsame
    | cons c cs =>
      rw [hcs] at hsame
      simp only [sameTexts, sameUpToCase_eq, Bool.and_eq_true, beq_iff_eq] at hsame
      exact ⟨c, cs, rfl, d, hd, hsame.1⟩
  cases token with
  | literal text =>
    obtain ⟨w, hw, hsame⟩ := Shape.matches_words_iff.1 h
    rw [List.mem_singleton.1 hw] at hsame
    cases text with
    | nil => exact absurd rfl hoccupies
    | cons d v => exact hwords rfl rfl hsame
  | field letter width =>
    simp only [shape] at h
    rcases letter.kind width with hnum | hname | hzone
    · rw [fieldShape_of_isNumeric hnum, matches_numberShape_iff] at h
      obtain ⟨hdigits, hlen⟩ := h
      have hwidth : 0 < width := hoccupies
      cases piece with
      | nil =>
        simp only [List.length_nil] at hlen
        split at hlen <;> omega
      | cons c cs =>
        refine ⟨c, cs, rfl, c, ⟨fun _ => hdigits c List.mem_cons_self, fun hno => ?_⟩, rfl⟩
        rw [hnum] at hno
        cases hno
    · obtain ⟨name, hmem, hsame⟩ := (matches_nameShape_iff hname).1 h
      obtain ⟨d, v, hd, hbegins⟩ := exists_cons_of_isLettered (isLettered_nameTable hn lenient letter width) hmem hname
      exact hwords hd hbegins hsame
    · rw [fieldShape_of_isZone hzone] at h
      obtain ⟨c, hc, hdigit⟩ := (zoneShape_beginsIn letter).of_matches (fun c => (isDigit_seenAs anyCase c).trans) h
      rw [isDigit_seenAs] at hdigit
      obtain ⟨cs, rfl⟩ := List.head?_eq_some_iff.1 hc
      refine ⟨c, cs, rfl, c, ⟨fun hno => ?_, fun _ => hdigit⟩, rfl⟩
      rw [isNumeric_of_isZone hzone] at hno
      cases hno

/-- Pieces of several tokens begin as the first token does. -/
theorem begins_of_allMatch (hn : names.Proper) (hoccupies : token.Occupies)
    (h : AllMatch anyCase (tokenShapes names lenient (token :: tokens)) pieces) :
    ∃ c cs, pieces.flatten = c :: cs ∧ token.BeginsAs anyCase c := by
  cases pieces with
  | nil => exact absurd h id
  | cons piece pieces =>
    obtain ⟨c, cs, rfl, hbegins⟩ := Token.begins_of_matches hn hoccupies h.1
    exact ⟨c, _, rfl, hbegins⟩

/-- The pieces of a split begin as the first token does. -/
theorem IsSplit.begins (hn : names.Proper) (hoccupies : ∀ token ∈ tokens, token.Occupies) (h : IsSplit names tokens pieces) :
    ∀ c ∈ pieces.flatten.head?, ∃ token ∈ tokens.head?, token.BeginsWith c := by
  intro c hc
  rw [isSplit_iff_allMatch] at h
  cases tokens with
  | nil =>
    cases pieces with
    | nil => cases hc
    | cons piece pieces => exact absurd h id
  | cons token tokens =>
    obtain ⟨e, cs, hflatten, d, hd, hsame⟩ := begins_of_allMatch hn (hoccupies token List.mem_cons_self) h
    rw [hflatten] at hc
    obtain rfl : e = c := Option.some.inj hc
    obtain rfl : d = e := hsame
    exact ⟨token, rfl, hd⟩

/-! ### The only split -/

/-- A field is not written with the character that follows where it ends, but for a number in front of another one. -/
theorem Token.EndsBefore.not_spells {next : Token} {c : Char} (h : (Token.field letter width).EndsBefore (some next))
    (hapart : letter.isNumeric width = true → next.isNumeric = false) (hc : next.BeginsAs anyCase c) :
    ¬letter.Spells width (seenAs anyCase c) := by
  obtain ⟨d, hd, hsame⟩ := hc
  rw [← hsame]
  cases next with
  | literal text => exact (h d hd).not_spells anyCase
  | field nextLetter nextWidth =>
    rcases h with hnum | ⟨hname, hnum⟩
    · rw [Letter.spells_number hnum, isDigit_seenAs, hd.2 (hapart hnum)]
      decide
    · have hdigit := hd.1 hnum
      rw [Letter.spells_name hname, seenAs_of_isDigit hdigit]
      intro halpha
      rw [isDigit_of_isAlpha halpha] at hdigit
      cases hdigit

/-- Two pieces of a token at the front of one text are the same, where the token ends before what follows them. -/
theorem Token.append_inj_of_matches (hn : names.Proper) (hends : token.EndsBefore next) {p q r t : List Char}
    (hp : (token.shape names lenient next).Matches anyCase p) (hq : (token.shape names lenient next).Matches anyCase q)
    (hr : ∀ c ∈ r.head?, ∃ token ∈ next, token.BeginsAs anyCase c)
    (ht : ∀ c ∈ t.head?, ∃ token ∈ next, token.BeginsAs anyCase c) (h : p ++ r = q ++ t) : p = q ∧ r = t := by
  cases token with
  | literal text => exact append_inj_of_word hp hq h
  | field letter width =>
    simp only [shape] at hp hq
    by_cases hadj : letter.isNumeric width = true ∧ next.any Token.isNumeric = true
    · rw [fieldShape_of_isNumeric hadj.1, hadj.2, matches_numberShape_iff, if_pos rfl] at hp hq
      exact List.append_inj h (hp.2.trans hq.2.symm)
    · have hrest : ∀ c, (∃ token ∈ next, token.BeginsAs anyCase c) → ¬letter.Spells width (seenAs anyCase c) := by
        rintro c ⟨token, htoken, hbegins⟩
        rw [htoken] at hends hadj
        refine hends.not_spells (fun hnum => ?_) hbegins
        rw [← Bool.not_eq_true]
        exact fun hnext => hadj ⟨hnum, hnext⟩
      have hwithin := fieldShape_within hn lenient letter width (next.any Token.isNumeric)
      exact append_inj_of_runs (hwithin.of_matches (fun c hc => hc.seenAs) hp) (hwithin.of_matches (fun c hc => hc.seenAs) hq)
        (fun c hc => hrest c (hr c hc)) (fun c hc => hrest c (ht c hc)) h

/-- A text has at most one split into pieces of a separable pattern. -/
theorem IsSplit.unique (hn : names.Proper) (hoccupies : ∀ token ∈ tokens, token.Occupies) (hsep : Separable tokens)
    {ps qs : List (List Char)} (hp : IsSplit names tokens ps) (hq : IsSplit names tokens qs)
    (h : ps.flatten = qs.flatten) : ps = qs := by
  induction tokens generalizing ps qs with
  | nil =>
    cases ps with
    | nil =>
      cases qs with
      | nil => rfl
      | cons q qs => exact absurd hq id
    | cons p ps => exact absurd hp id
  | cons token tokens ih =>
    cases ps with
    | nil => exact absurd hp id
    | cons p ps =>
      cases qs with
      | nil => exact absurd hq id
      | cons q qs =>
        have hoccupies' : ∀ token ∈ tokens, token.Occupies := fun token ht => hoccupies token (List.mem_cons_of_mem _ ht)
        have hbegins : ∀ {pieces}, IsSplit names tokens pieces →
            ∀ c ∈ pieces.flatten.head?, ∃ token ∈ tokens.head?, token.BeginsAs false c := by
          intro pieces hsplit c hc
          obtain ⟨next, hnext, hbegins⟩ := hsplit.begins hn hoccupies' c hc
          exact ⟨next, hnext, c, hbegins, rfl⟩
        rw [List.flatten_cons, List.flatten_cons] at h
        obtain ⟨rfl, hrest⟩ := Token.append_inj_of_matches hn hsep.1 (Token.admits_iff_matches.1 hp.1)
          (Token.admits_iff_matches.1 hq.1) (hbegins hp.2) (hbegins hq.2) h
        rw [ih hoccupies' hsep.2 hp.2 hq.2 hrest]

end CivilTime
