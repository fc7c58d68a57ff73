import CivilTime.Proofs.Pattern.Pieces

/-!
# Lenient reading

What a separable pattern reads exactly it reads leniently in the same way, where its tokens mean the same to both
(`ReadsAlike`): they name no zone, no year of two digits, and no hour of the half-day without the half. The pieces of a
text that has the exact form are those that lenient reading prefers (`DatePattern.pieces?_leniently`), and each of them is
taken in alike (`DatePattern.Takes.leniently`). So the reading is the same (`DatePattern.read_leniently`).
-/

namespace CivilTime

/-- The pattern, read leniently. -/
def DatePattern.leniently (p : DatePattern) : DatePattern := { p with lenient := true }

/-- Exact and lenient reading take the tokens alike: none of them names a zone or a year of two digits, and an hour of the
half-day occurs only with the half. -/
structure ReadsAlike (tokens : List Token) : Prop where
  zone : ¬Named zoneLetters tokens
  year : ∀ letter ∈ [Letter.year, .extendedYear], Token.field letter 2 ∉ tokens
  half : Named [.halfDayHour, .clockHour] tokens → Named [.halfDay] tokens

instance (tokens : List Token) : Decidable (ReadsAlike tokens) :=
  decidable_of_iff
    (¬Named zoneLetters tokens ∧ (∀ letter ∈ [Letter.year, .extendedYear], Token.field letter 2 ∉ tokens) ∧
      (Named [.halfDayHour, .clockHour] tokens → Named [.halfDay] tokens))
    ⟨fun ⟨zone, year, half⟩ => ⟨zone, year, half⟩, fun ⟨zone, year, half⟩ => ⟨zone, year, half⟩⟩

variable {p : DatePattern} {names : Names} {token : Token} {tokens : List Token} {letter : Letter} {width : Nat}
  {piece rest : List Char} {pieces : List (List Char)} {today : Date} {text : String} {db : Database}

theorem mem_zoneLetters_iff : letter ∈ zoneLetters ↔ letter.isZone = true := by
  cases letter <;> decide

/-! ### Pieces of the exact form -/

/-- Lenient reading prefers a piece of the exact form where its token ends. -/
private theorem prefers_of_matches (hn : names.Proper) (hz : ∀ letter width, token = .field letter width →
      letter.isZone = false) {next : Option Token} (hends : token.EndsBefore next)
    (h : (token.shape names false next).Matches false piece)
    (hrest : ∀ c ∈ rest.head?, ∃ token ∈ next, token.BeginsWith c) :
    (token.shape names true next).Prefers true piece rest := by
  cases token with
  | literal text =>
    obtain ⟨w, hw, hsame⟩ := Shape.matches_words_iff.1 h
    rw [List.mem_singleton.1 hw, sameTexts_false] at hsame
    subst hsame
    exact Shape.prefers_word true text rest
  | field letter width =>
    simp only [Token.shape] at h ⊢
    rcases letter.kind width with hnum | hname | hzone
    · rw [fieldShape_of_isNumeric hnum] at h ⊢
      obtain ⟨hdigits, hlen⟩ := matches_numberShape_iff.1 h
      have hall : ∀ c ∈ piece, CharClass.digit.accepts true c = true := fun c hc => accepts_of_isDigit (hdigits c hc)
      unfold numberShape
      cases hadj : next.any Token.isNumeric with
      | true =>
        rw [hadj] at hlen
        obtain rfl : piece.length = width := hlen
        exact Shape.prefers_run hall (Nat.le_refl _) (fun n hn => by cases hn; exact Nat.le_refl _) (.inl rfl)
      | false =>
        rw [hadj] at hlen
        refine Shape.prefers_run hall hlen.1 (fun n hn => by cases hn; exact hlen.2) (.inr fun c hc => ?_)
        obtain ⟨token, htoken, hbegins⟩ := hrest c hc
        rw [htoken] at hends hadj
        rw [← Bool.not_eq_true]
        intro hacc
        have := isDigit_of_accepts hacc
        rw [hends.not_isDigit hnum hadj hbegins] at this
        cases this
    · obtain ⟨name, hmem, hsame⟩ := (matches_nameShape_iff hname).1 h
      rw [sameTexts_false] at hsame
      subst hsame
      rw [fieldShape_of_isName hname]
      refine prefers_name (isLettered_nameTable hn true letter width) (nameTable_subset letter width hmem) fun c hc => ?_
      obtain ⟨token, htoken, hbegins⟩ := hrest c hc
      rw [htoken] at hends
      exact hends.not_isAlpha hname hbegins
    · rw [hz letter width rfl] at hzone
      cases hzone

private theorem allPrefer_of_allMatch (hn : names.Proper) (hoccupies : ∀ token ∈ tokens, token.Occupies)
    (hz : ¬Named zoneLetters tokens) (hsep : Separable tokens)
    (h : AllMatch false (tokenShapes names false tokens) pieces) :
    AllPrefer true (tokenShapes names true tokens) pieces := by
  induction tokens generalizing pieces with
  | nil =>
    cases pieces with
    | nil => trivial
    | cons piece pieces => exact absurd h id
  | cons token tokens ih =>
    cases pieces with
    | nil => exact absurd h id
    | cons piece pieces =>
      have hoccupies' : ∀ token ∈ tokens, token.Occupies := fun token ht => hoccupies token (List.mem_cons_of_mem _ ht)
      have hz' : ¬Named zoneLetters tokens := by
        rintro ⟨letter, hletter, width, hmem⟩
        exact hz ⟨letter, hletter, width, List.mem_cons_of_mem _ hmem⟩
      refine ⟨prefers_of_matches hn ?_ hsep.1 h.1 ((isSplit_iff_allMatch.2 h.2).begins hn hoccupies'),
        ih hoccupies' hz' hsep.2 h.2⟩
      rintro letter width rfl
      rw [← Bool.not_eq_true]
      intro hzone
      exact hz ⟨letter, mem_zoneLetters_iff.2 hzone, width, List.mem_cons_self⟩

/-- A text that has the exact form of a separable pattern is cut into the same pieces leniently. -/
theorem DatePattern.pieces?_leniently (hstrict : p.lenient = false) (hn : p.names.Proper)
    (hoccupies : ∀ token ∈ p.tokens, token.Occupies) (hz : ¬Named zoneLetters p.tokens) (hsep : Separable p.tokens)
    {text : List Char} (h : p.pieces? text = some pieces) : p.leniently.pieces? text = some pieces := by
  unfold pieces? at h
  rw [hstrict] at h
  obtain ⟨hmatch, rest, rfl, hrest⟩ := cutAll_sound h
  obtain rfl : rest = [] := List.isEmpty_iff.1 hrest
  rw [List.append_nil]
  exact cutAll_eq_of_allPrefer rfl (allPrefer_of_allMatch hn hoccupies hz hsep hmatch)

/-! ### Taking pieces in -/

variable {r r' : OpenReading} {raw : List Char}

theorem eq_numeralValue_of_fieldNumber {lenient : Bool} {value : Nat} (h : fieldNumber lenient letter raw = .ok value) :
    value = numeralValue raw := by
  unfold fieldNumber at h
  dsimp only at h
  split at h
  · split at h
    · exact (Except.ok.inj h).symm
    · cases h
  · exact (Except.ok.inj h).symm

theorem fieldNumber_lenient (letter : Letter) (raw : List Char) :
    fieldNumber true letter raw = .ok (numeralValue raw) := by
  unfold fieldNumber
  cases letter.bounds? <;> rfl

/-- A piece that is taken in exactly is taken in leniently with the same result. -/
theorem DatePattern.Takes.leniently (hz : letter ∉ zoneLetters)
    (hyear : letter ∈ [Letter.year, .extendedYear] → width ≠ 2) (h : p.Takes today db r letter width raw r') :
    p.leniently.Takes today db r letter width raw r' := by
  cases h with
  | @number value hnum hlong hvalue =>
    have hsame : r.takeNumber p.lenient today letter width raw value =
        r.takeNumber true today letter width raw value := by
      cases letter with
      | year | extendedYear =>
        have hwidth : width ≠ 2 := hyear (by decide)
        simp [OpenReading.takeNumber, hwidth]
      | _ => rfl
    rw [hsame]
    refine .number hnum hlong ?_
    rw [eq_numeralValue_of_fieldNumber hvalue]
    exact fieldNumber_lenient letter raw
  | month hletter hnum hplace => exact .month hletter hnum hplace
  | weekday hletter hplace => exact .weekday hletter hplace
  | halfDay hletter => exact .halfDay hletter
  | zone hletter => exact absurd hletter hz

theorem OpenReading.Covers.settle_eq (h : r.Covers tokens)
    (hhalf : Named [.halfDayHour, .clockHour] tokens → Named [.halfDay] tokens) : r.settle true = r.settle false := by
  unfold settle
  split
  · rfl
  · rename_i clock value hclock
    -- an hour of the half-day comes with the half, which settles it in either way
    have hsettled : clock = .fromOne ∨ r.afternoon.isSome = true :=
      (h.clockHour clock value hclock).imp id fun hnamed => h.afternoon.2 (hhalf hnamed)
    rw [if_pos (by simp), if_pos ?_]
    rcases hsettled with e | e <;> rw [e] <;> simp

/-- What a separable pattern reads exactly it reads leniently as well. -/
theorem DatePattern.read_leniently {reading : Reading} (hstrict : p.lenient = false) (hn : p.names.Proper)
    (hoccupies : ∀ token ∈ p.tokens, token.Occupies) (hsep : Separable p.tokens) (halike : ReadsAlike p.tokens)
    (h : p.read today text db = .ok reading) : p.leniently.read today text db = .ok reading := by
  obtain ⟨pieces, r, hpieces, hlen, hr, rfl⟩ := exists_pieces_of_read h
  have hpieces' := pieces?_leniently hstrict hn hoccupies halike.zone hsep hpieces
  have hr' : (p.tokens.zip pieces).foldlM (p.leniently.take today text db) .empty = .ok r := by
    refine foldlM_eq_ok_of_steps hr ?_
    rintro ⟨token, raw⟩ hmem r r' hstep
    have htoken : token ∈ p.tokens := (List.of_mem_zip hmem).1
    cases token with
    | literal text => exact hstep
    | field letter width =>
      refine takeField_of_takes (Takes.leniently ?_ ?_ (takes_of_takeField hstep))
      · intro hletter
        exact halike.zone ⟨letter, hletter, width, htoken⟩
      · rintro hletter rfl
        exact halike.year letter hletter htoken
  have hsettle := (OpenReading.covers_foldlM hlen hr).settle_eq halike.half
  rw [read_of_pieces? hpieces']
  change ((p.tokens.zip pieces).foldlM (p.leniently.take today text db) .empty >>= fun r =>
    Except.ok (r.settle true)) = _
  rw [hr', hstrict, ← hsettle]
  rfl

end CivilTime
