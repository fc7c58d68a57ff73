import CivilTime.Proofs.Completed
import CivilTime.Proofs.Pattern.Digits

/-!
# Values of exact readings

Exact reading admits numbers that some moment has: those with bounds are checked where they are taken in
(`DatePattern.inRange_read`), and a year is checked with the date that it completes (`Reading.CompletesDate`). Two numbers are
kept by their digits alone (`Reading.FitsWidths`): a year without a month or a day, and a fraction of a second. So only a year of
zero, or a field that is wider than four digits or than three, leads out of what a moment has
(`DateFormat.readFields_representable`).
-/

namespace CivilTime

namespace Reading.FitsWidths

variable {r : Reading} {tokens : List Token}

/-- A year is supported, or zero, or its field is wider than four digits. -/
theorem year_cases (h : r.FitsWidths tokens) {year : Int} (hyear : year ∈ r.year) :
    supportedYear year = true ∨ year = 0 ∨ ∃ letter ∈ [Letter.year, .extendedYear], ∃ width, 4 < width ∧
      Token.field letter width ∈ tokens ∧ 10000 ≤ year ∧ year < Nat.pow 10 width := by
  obtain ⟨hnonneg, letter, hletter, width, hmem, hlt⟩ := h.year year hyear
  by_cases hlarge : 10000 ≤ year
  · have hwide : 4 < width := by
      by_cases hle : width ≤ 4
      · rw [Nat.max_eq_right hle, show Nat.pow 10 4 = 10000 from rfl] at hlt
        omega
      · omega
    rw [Nat.max_eq_left (Nat.le_of_lt hwide)] at hlt
    exact .inr (.inr ⟨letter, hletter, width, hwide, hmem, hlarge, hlt⟩)
  · by_cases hzero : year = 0
    · exact .inr (.inl hzero)
    · unfold supportedYear
      simp only [Bool.and_eq_true, decide_eq_true_eq]
      exact .inl ⟨by omega, by omega⟩

/-- A fraction of a second has at most three digits, or its field is wider. -/
theorem millisecond_cases (h : r.FitsWidths tokens) {n : Nat} (hn : n ∈ r.millisecond) :
    n < 1000 ∨ ∃ width, 3 < width ∧ Token.field .millisecond width ∈ tokens ∧ n < Nat.pow 10 width := by
  obtain ⟨width, hmem, hlt⟩ := h.millisecond n hn
  by_cases hle : width ≤ 3
  · rw [Nat.max_eq_right hle] at hlt
    exact .inl hlt
  · rw [Nat.max_eq_left (by omega)] at hlt
    exact .inr ⟨width, by omega, hmem, hlt⟩

end Reading.FitsWidths

namespace DateFormat

variable {s : Surroundings} {f : DateFormat} {pattern zoneName : Option String} {text : String} {r : Reading}

/-- Every value of an exact reading is one that some moment has, but for a year without a month or a day that is zero or has more
than four digits, and a fraction of a second that has more than three; a field of the pattern has to be wide enough for so many
digits. -/
theorem readFields_representable (hf : DateFormat.strict s pattern zoneName = .ok f) (h : f.readFields s text = .ok r) :
    r.InRange ∧
      (∀ year ∈ r.year, supportedYear year = true ∨
        (¬Named [.month, .standaloneMonth] f.pattern.tokens ∨ ¬Named [.day] f.pattern.tokens) ∧
          (year = 0 ∨ ∃ letter ∈ [Letter.year, .extendedYear], ∃ width, 4 < width ∧
            Token.field letter width ∈ f.pattern.tokens ∧ 10000 ≤ year ∧ year < Nat.pow 10 width)) ∧
      ∀ n ∈ r.millisecond, n < 1000 ∨
        ∃ width, 3 < width ∧ Token.field .millisecond width ∈ f.pattern.tokens ∧ n < Nat.pow 10 width := by
  obtain ⟨raw, dated, hraw, hdated, rfl⟩ := readFields_eq_ok_iff.1 h
  obtain ⟨-, hnames, hstrict, -⟩ := of_bind hf
  have hcompletes := Reading.completesDate_of_withDate hdated
  have hcovers := DatePattern.covers_read hraw
  have hfits := DatePattern.fitsWidths_read hstrict hraw
  have hraws := DatePattern.inRange_read hstrict (by rw [hnames]; exact Names.proper_of _) hraw
  refine ⟨(hcompletes.inRange hraws).withTime, ?_, ?_⟩ <;> rw [dated.withTime_frame, hcompletes.frame]
  · intro year hyear
    by_cases hdate : Named [.month, .standaloneMonth] f.pattern.tokens ∧ Named [.day] f.pattern.tokens
    · obtain ⟨d, hd, hdyear, -⟩ := hcompletes.exists_date hraws (Option.isSome_of_mem hyear)
        (hcovers.month.2 hdate.1) (hcovers.day.2 hdate.2)
      obtain rfl : d.year = year := Option.some.inj (hdyear.symm.trans hyear)
      exact .inl (Date.isValid_iff.1 hd).1
    · exact (hfits.year_cases hyear).imp_right fun hother => ⟨Decidable.not_and_iff_or_not.1 hdate, hother⟩
  · exact fun n hn => hfits.millisecond_cases hn

/-- The 31 February 2021, a millisecond before midnight, is read as values that all occur. -/
theorem readFields_representable_february :
    ∃ f r, DateFormat.strict .bare (some "yyyy-MM-dd HH:mm:ss.SSS") none = .ok f ∧
      f.readFields .bare "2021-02-31 23:59:59.999" = .ok r ∧ r.InRange ∧
      (∀ year ∈ r.year, supportedYear year = true) ∧ ∀ n ∈ r.millisecond, n < 1000 := by
  obtain ⟨f, hf, htokens, r, hr⟩ : ∃ f, DateFormat.strict .bare
      (some "yyyy-MM-dd HH:mm:ss.SSS") none = .ok f ∧
      f.pattern.tokens = [.field .year 4, .literal ['-'], .field .month 2, .literal ['-'], .field .day 2, .literal [' '],
        .field .hour 2, .literal [':'], .field .minute 2, .literal [':'], .field .second 2, .literal ['.'],
        .field .millisecond 3] ∧
      ∃ r, f.readFields .bare "2021-02-31 23:59:59.999" = .ok r :=
    ⟨⟨⟨"yyyy-MM-dd HH:mm:ss.SSS", none⟩, "en", some .utc, ⟨"yyyy-MM-dd HH:mm:ss.SSS", _, .english, false⟩⟩,
      eq_ok_of_toOption (by decide +kernel), rfl,
      ⟨some 2021, some 2, some 28, some 7, some 23, some 59, some 59, some 999, none⟩,
      eq_ok_of_toOption (by decide +kernel)⟩
  obtain ⟨hrange, hyear, hmilli⟩ := readFields_representable hf hr
  rw [htokens] at hyear hmilli
  refine ⟨_, r, hf, hr, hrange, fun year hy => (hyear year hy).resolve_right fun hno => ?_,
    fun n hn => (hmilli n hn).resolve_right ?_⟩
  · exact absurd hno.1 (by decide)
  · rintro ⟨width, hwide, hmem, -⟩
    simp at hmem
    omega

/-- Three exact readings hold values that no moment has: 1234 milliseconds, the year zero and a year of five digits. -/
theorem not_readFields_representable :
    (DateFormat.strict .bare (some "SSSS") none >>= fun f =>
        f.readFields .bare "1234") =
        .ok ⟨none, none, none, none, none, none, none, some 1234, none⟩ ∧
      (DateFormat.strict .bare (some "yyyy") none >>= fun f =>
        f.readFields .bare "0000") =
        .ok ⟨some 0, none, none, none, none, none, none, none, none⟩ ∧
      (DateFormat.strict .bare (some "yyyyy") none >>= fun f =>
        f.readFields .bare "12345") =
        .ok ⟨some 12345, none, none, none, none, none, none, none, none⟩ ∧
      supportedYear 0 = false ∧ supportedYear 12345 = false :=
  ⟨eq_ok_of_toOption (by decide +kernel), eq_ok_of_toOption (by decide +kernel), eq_ok_of_toOption (by decide +kernel),
    by decide, by decide⟩

end DateFormat

end CivilTime
