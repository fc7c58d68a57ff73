import CivilTime.Proofs.Pattern.Lenience
import CivilTime.Proofs.Text.Numerals

/-!
# Years and fractions of a second

Exact reading keeps most numbers within the bounds of their fields. Those of years and of fractions of a second have no bounds:
they are kept small only by the number of digits that their fields admit, which grows with the width
(`DatePattern.fitsWidths_read`).
-/

namespace CivilTime

/-- The year and the fraction of a second that the reading holds have no more digits than a field for them admits. -/
structure Reading.FitsWidths (r : Reading) (tokens : List Token) : Prop where
  year : ∀ year ∈ r.year, 0 ≤ year ∧
    ∃ letter ∈ [Letter.year, .extendedYear], ∃ width, Token.field letter width ∈ tokens ∧ year < Nat.pow 10 (max width 4)
  millisecond : ∀ n ∈ r.millisecond, ∃ width, Token.field .millisecond width ∈ tokens ∧ n < Nat.pow 10 (max width 3)

variable {p : DatePattern} {today : Date} {text : String} {db : Database} {r r' : OpenReading} {letter : Letter}
  {width : Nat} {raw : List Char}

private theorem numeralValue_lt_of_length_le {n : Nat} (h : raw.length ≤ n) : numeralValue raw < Nat.pow 10 n :=
  Nat.lt_of_lt_of_le (numeralValue_lt raw) (Nat.pow_le_pow_right (by decide) h)

/-- The digits of a year are those that the field admits; two digits stand for a year of this century. -/
private theorem year_lt (hlen : raw.length ≤ max width 4) {year : Int}
    (h : (if (decide (width = 2) && decide (raw.length = 2)) = true then twoDigitYear false today (numeralValue raw)
      else (numeralValue raw : Int)) = year) : 0 ≤ year ∧ year < Nat.pow 10 (max width 4) := by
  split at h
  · rename_i htwo
    simp only [Bool.and_eq_true, decide_eq_true_eq] at htwo
    obtain ⟨rfl, htwo⟩ := htwo
    have hlt := numeralValue_lt_of_length_le (Nat.le_of_eq htwo)
    simp only [twoDigitYear, Bool.false_eq_true, if_false] at h
    rw [show Nat.pow 10 2 = 100 from rfl] at hlt
    rw [show Nat.pow 10 (max 2 4) = 10000 from rfl]
    omega
  · subst h
    exact ⟨Int.natCast_nonneg _, Int.ofNat_lt.2 (numeralValue_lt_of_length_le hlen)⟩

/-- A field in digits has no more of them than its width or than its letter admits. -/
private theorem length_le_of_matches {names : Names} {lenient anyCase adjacent : Bool}
    (hnum : letter.isNumeric width = true)
    (h : (fieldShape names lenient letter width adjacent).Matches anyCase raw) :
    raw.length ≤ max width (letter.maxDigits width) := by
  rw [fieldShape_of_isNumeric hnum, matches_numberShape_iff] at h
  obtain ⟨-, hlen⟩ := h
  split at hlen <;> omega

private theorem fitsWidths_empty (tokens : List Token) : Reading.empty.FitsWidths tokens :=
  ⟨fun _ hyear => (by cases hyear), fun _ hn => (by cases hn)⟩

private theorem fitsWidths_takes {tokens : List Token} (hstrict : p.lenient = false)
    (h : p.Takes today db r letter width raw r') (hmem : Token.field letter width ∈ tokens)
    (hlen : letter.isNumeric width = true → raw.length ≤ max width (letter.maxDigits width))
    (hr : r.fields.FitsWidths tokens) : r'.fields.FitsWidths tokens := by
  cases h with
  | @number value hnum _ hvalue =>
    obtain rfl := eq_numeralValue_of_fieldNumber hvalue
    have hlen := hlen hnum
    cases letter with
    | year | extendedYear =>
      refine ⟨fun year hyear => ?_, hr.millisecond⟩
      have hread := Option.some.inj hyear
      rw [hstrict] at hread
      obtain ⟨hnonneg, hlt⟩ := year_lt (by simp only [Letter.maxDigits] at hlen; omega) hread
      exact ⟨hnonneg, _, by decide, width, hmem, hlt⟩
    | millisecond =>
      refine ⟨hr.year, fun n hn => ⟨width, hmem, ?_⟩⟩
      obtain rfl := Option.some.inj hn
      refine numeralValue_lt_of_length_le ?_
      simp only [Letter.maxDigits] at hlen
      omega
    | month | standaloneMonth | day | hour | hourFromOne | halfDayHour | clockHour | minute | second =>
      exact ⟨hr.year, hr.millisecond⟩
    | _ => cases hnum
  | month | weekday | halfDay | zone => exact ⟨hr.year, hr.millisecond⟩

theorem DatePattern.fitsWidths_read {reading : Reading} (hstrict : p.lenient = false)
    (h : p.read today text db = .ok reading) : reading.FitsWidths p.tokens := by
  obtain ⟨pieces, open_, hpieces, -, hfold, rfl⟩ := exists_pieces_of_read h
  obtain ⟨hour, hsettle⟩ := open_.exists_settle p.lenient
  rw [hsettle]
  have hfits : open_.fields.FitsWidths p.tokens := by
    refine foldlM_invariant (P := fun _ r => r.fields.FitsWidths p.tokens) hfold (fitsWidths_empty p.tokens) ?_
    rintro done ⟨token, raw⟩ hmem r r' hr hstep
    cases token with
    | literal text =>
      cases hstep
      exact hr
    | field letter width =>
      refine fitsWidths_takes hstrict (takes_of_takeField hstep) (List.of_mem_zip hmem).1 (fun hnum => ?_) hr
      obtain ⟨next, hmatch⟩ := matches_of_mem_zip hpieces hmem
      exact length_le_of_matches hnum hmatch
  exact ⟨hfits.year, hfits.millisecond⟩

end CivilTime
