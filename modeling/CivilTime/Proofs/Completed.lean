import CivilTime.Fields
import CivilTime.Proofs.Pattern.Taken
import CivilTime.Proofs.RoundTrip

/-!
# Completed readings

A strict format completes what its pattern reads: a date gets its weekday and a day that its month has
(`Reading.completesDate_of_withDate`), and an hour brings a minute and a second with it (`Reading.withTime_cases`). So the
fields that are reported of a text agree with each other (`DateFields.Consistent`), and the date and time by which the zone
of the text is named exist (`fieldsOfText_consistent`).
-/

namespace CivilTime

namespace Reading

variable {r r' : Reading} {text pattern : String} {tokens : List Token}

/-! ### Dates -/

/-- One of the parts of a date is missing and nothing is changed, or the reading goes on with the day that its month has
and with the weekday of that date, which may have been read already. -/
def CompletesDate (r r' : Reading) : Prop :=
  ((r.year = none ∨ r.month = none ∨ r.day = none) ∧ r' = r) ∨
    ∃ year month day, (r.year = some year ∧ r.month = some month ∧ r.day = some day) ∧ supportedYear year = true ∧
      (∀ weekday ∈ r.weekday, weekday = (Date.clamped ⟨year, month, day⟩).weekday) ∧
      r' = { r with
        day := some (Date.clamped ⟨year, month, day⟩).day
        weekday := some (Date.clamped ⟨year, month, day⟩).weekday }

theorem completesDate_of_withDate (h : r.withDate text pattern = .ok r') : r.CompletesDate r' := by
  unfold withDate at h
  split at h
  · rename_i year month day hyear hmonth hday
    split at h
    · cases h
    · split at h
      · cases h
      · rename_i hsupported
        dsimp only at h
        split at h
        · cases h
        · rename_i hweekday
          cases h
          refine .inr ⟨year, month, day, ⟨hyear, hmonth, hday⟩, by simpa using hsupported, fun weekday hw => ?_, rfl⟩
          rw [hw] at hweekday
          simpa using hweekday
  · rename_i hmissing
    cases h
    left
    refine ⟨?_, rfl⟩
    cases hyear : r.year with
    | none => exact .inl rfl
    | some year =>
      cases hmonth : r.month with
      | none => exact .inr (.inl rfl)
      | some month =>
        cases hday : r.day with
        | none => exact .inr (.inr rfl)
        | some day => exact absurd hday (hmissing year month day hyear hmonth)

theorem CompletesDate.inRange (h : r.CompletesDate r') (hr : r.InRange) : r'.InRange := by
  rcases h with ⟨-, rfl⟩ | ⟨year, month, day, ⟨-, hmonth, hday⟩, hsupported, -, rfl⟩
  · exact hr
  · have hvalid := Date.isValid_clamped (d := ⟨year, month, day⟩) hsupported (hr.month month hmonth) (hr.day day hday).1
    have hlen := monthLength_bounds year month
    obtain ⟨-, -, hd, hd'⟩ := Date.isValid_iff.1 hvalid
    refine { hr with day := fun n hn => ?_, weekday := fun n hn => ?_ }
    · cases hn
      exact ⟨hd, Nat.le_trans hd' hlen.2⟩
    · cases hn
      exact weekdayOfDay_bounds _

/-- A complete date exists, and its weekday is told. -/
theorem CompletesDate.date (h : r.CompletesDate r') (hr : r.InRange) {year : Int} {month day : Nat}
    (hyear : r'.year = some year) (hmonth : r'.month = some month) (hday : r'.day = some day) :
    (⟨year, month, day⟩ : Date).isValid = true ∧ r'.weekday = some (⟨year, month, day⟩ : Date).weekday := by
  rcases h with ⟨hmissing, rfl⟩ | ⟨year', month', day', ⟨hy, hm, hd⟩, hsupported, -, rfl⟩
  · rw [hyear, hmonth, hday] at hmissing
    simp at hmissing
  · obtain rfl : year' = year := Option.some.inj (hy.symm.trans hyear)
    obtain rfl : month' = month := Option.some.inj (hm.symm.trans hmonth)
    obtain rfl := Option.some.inj hday
    exact ⟨Date.isValid_clamped (d := ⟨year', month', day'⟩) hsupported (hr.month month' hm) (hr.day day' hd).1, rfl⟩

/-- Where all parts of a date are read, there is one in that month. -/
theorem CompletesDate.exists_date (h : r.CompletesDate r') (hr : r.InRange) (hyear : r.year.isSome = true)
    (hmonth : r.month.isSome = true) (hday : r.day.isSome = true) :
    ∃ d : Date, d.isValid = true ∧ r.year = some d.year ∧ r.month = some d.month ∧
      r' = { r with day := some d.day, weekday := some d.weekday } := by
  rcases h with ⟨hmissing, -⟩ | ⟨year, month, day, ⟨hy, hm, hd⟩, hsupported, -, rfl⟩
  · rw [Option.isSome_iff_ne_none] at hyear hmonth hday
    rcases hmissing with hnone | hnone | hnone
    · exact absurd hnone hyear
    · exact absurd hnone hmonth
    · exact absurd hnone hday
  · exact ⟨Date.clamped ⟨year, month, day⟩,
      Date.isValid_clamped (d := ⟨year, month, day⟩) hsupported (hr.month month hm) (hr.day day hd).1, hy, hm, rfl⟩

/-- Completing the date leaves everything but the day and the weekday as it is. -/
theorem CompletesDate.frame (h : r.CompletesDate r') : r' = { r with day := r'.day, weekday := r'.weekday } := by
  rcases h with ⟨-, rfl⟩ | ⟨_, _, _, -, -, -, rfl⟩ <;> rfl

/-! ### Times of day -/

/-- An hour brings minute and second with it, unless a second or millisecond is read and no minute. -/
theorem withTime_cases (r : Reading) :
    ((r.hour.isSome = true ∧ (r.minute.isSome = true ∨ r.second = none ∧ r.millisecond = none)) ∧
      r.withTime = { r with minute := some (r.minute.getD 0), second := some (r.second.getD 0) }) ∨
    ((r.hour = none ∨ r.minute = none ∧ (r.second.isSome = true ∨ r.millisecond.isSome = true)) ∧ r.withTime = r) := by
  unfold withTime
  cases r.hour <;> cases r.minute <;> cases r.second <;> cases r.millisecond <;> simp

/-- Completing the time leaves everything but the minute and the second as it is. -/
theorem withTime_frame (r : Reading) :
    r.withTime = { r with minute := r.withTime.minute, second := r.withTime.second } := by
  rcases r.withTime_cases with ⟨-, e⟩ | ⟨-, e⟩ <;> rw [e]

theorem InRange.withTime (h : r.InRange) : r.withTime.InRange := by
  rcases r.withTime_cases with ⟨-, e⟩ | ⟨-, e⟩
  · rw [e]
    refine { h with minute := fun n hn => ?_, second := fun n hn => ?_ }
    · cases hn
      cases hm : r.minute with
      | none => decide
      | some minute => exact h.minute minute hm
    · cases hn
      cases hs : r.second with
      | none => decide
      | some second => exact h.second second hs
  · rwa [e]

/-! ### The moment by which a zone is named -/

/-- The date by which the zone of a reading is named: its own, if it is complete. -/
def namingDate (r : Reading) : Date :=
  match r.year, r.month, r.day with
  | some year, some month, some day => ⟨year, month, day⟩
  | _, _, _ => ⟨1970, 1, 1⟩

theorem namingTime_eq (r : Reading) : r.namingTime = .of r.namingDate (r.hour.getD 0) (r.minute.getD 0) 0 0 := rfl

theorem isValid_namingDate (h : ∀ year month day, r.year = some year → r.month = some month → r.day = some day →
    (⟨year, month, day⟩ : Date).isValid = true) : r.namingDate.isValid = true := by
  unfold namingDate
  split
  · rename_i year month day hyear hmonth hday
    exact h year month day hyear hmonth hday
  · decide

end Reading

/-! ### Fields of texts -/

/-- The fields agree with each other and with the tokens of the pattern: values that occur, a date that exists with its
weekday, a minute and a second with every hour, and a zone if a field asks for one. Where the pattern goes on to seconds
without a minute, an hour brings nothing with it. -/
structure DateFields.Consistent (f : DateFields) (tokens : List Token) : Prop where
  months : ∀ n ∈ f.months, 1 ≤ n ∧ n ≤ 12
  days : ∀ n ∈ f.days, 1 ≤ n ∧ n ≤ 31
  hours : ∀ n ∈ f.hours, n ≤ 23
  minutes : ∀ n ∈ f.minutes, n ≤ 59
  seconds : ∀ n ∈ f.seconds, n ≤ 59
  weekdays : ∀ n ∈ f.weekdays, 1 ≤ n ∧ n ≤ 7
  date : ∀ year month day, f.years = some year → f.months = some month → f.days = some day →
    (⟨year, month, day⟩ : Date).isValid = true ∧ f.weekdays = some (⟨year, month, day⟩ : Date).weekday
  time : f.hours.isSome = true →
    if Named [.second, .millisecond] tokens ∧ ¬Named [.minute] tokens then
      f.minutes = none ∧ (f.seconds.isSome = true ↔ Named [.second] tokens)
    else f.minutes.isSome = true ∧ f.seconds.isSome = true
  zone : f.zone.isSome = true ↔ Named zoneLetters tokens

variable {s : Surroundings} {text : String} {pattern : Option String} {fields : DateFields}

theorem fieldsOfText_eq_ok_iff (htext : text ≠ "") :
    fieldsOfText s (some text) pattern = .ok fields ↔
      ∃ f r, DateFormat.strict s pattern none = .ok f ∧ f.readFields s text = .ok r ∧ fields = r.dateFields := by
  have hfilter : (some text).filter (· != "") = some text := by simp [htext]
  unfold fieldsOfText
  rw [hfilter]
  dsimp only
  rw [bind_eq_ok_iff]
  constructor
  · rintro ⟨f, hf, h⟩
    obtain ⟨r, hr, he⟩ := bind_eq_ok_iff.1 h
    cases he
    exact ⟨f, r, hf, hr, rfl⟩
  · rintro ⟨f, r, hf, hr, rfl⟩
    exact ⟨f, hf, bind_eq_ok_iff.2 ⟨r, hr, rfl⟩⟩

theorem DateFormat.readFields_eq_ok_iff {f : DateFormat} {r : Reading} :
    f.readFields s text = .ok r ↔ ∃ raw dated, f.pattern.read s.today text s.database = .ok raw ∧
      raw.withDate text f.spec.pattern = .ok dated ∧ r = dated.withTime := by
  unfold readFields
  rw [bind_eq_ok_iff]
  constructor
  · rintro ⟨raw, hraw, h⟩
    obtain ⟨dated, hdated, he⟩ := bind_eq_ok_iff.1 h
    cases he
    exact ⟨raw, dated, hraw, hdated, rfl⟩
  · rintro ⟨raw, dated, hraw, hdated, rfl⟩
    exact ⟨raw, hraw, bind_eq_ok_iff.2 ⟨dated, hdated, rfl⟩⟩

private theorem time_withTime {r r' : Reading} {tokens : List Token} (h : r.CompletesDate r') (hc : r.Covers tokens)
    (hhour : r'.withTime.hour.isSome = true) :
    if Named [.second, .millisecond] tokens ∧ ¬Named [.minute] tokens then
      r'.withTime.minute = none ∧ (r'.withTime.second.isSome = true ↔ Named [.second] tokens)
    else r'.withTime.minute.isSome = true ∧ r'.withTime.second.isSome = true := by
  -- completing the date leaves the time of day as it is
  have htime : r'.hour = r.hour ∧ r'.minute = r.minute ∧ r'.second = r.second ∧ r'.millisecond = r.millisecond := by
    rcases h with ⟨-, rfl⟩ | ⟨_, _, _, -, -, -, rfl⟩ <;> exact ⟨rfl, rfl, rfl, rfl⟩
  obtain ⟨-, hminute, hsecond, hmilli⟩ := htime
  simp only [named_cons .second [.millisecond], ← hc.minute, ← hc.second, ← hc.millisecond]
  rcases r'.withTime_cases with ⟨⟨-, hwhen⟩, e⟩ | ⟨hwhen, e⟩
  · rw [hminute, hsecond, hmilli] at hwhen
    rw [e, if_neg ?_]
    · exact ⟨rfl, rfl⟩
    · rintro ⟨hread, hno⟩
      rcases hwhen with hsome | ⟨hs, hms⟩
      · exact hno hsome
      · rw [hs, hms] at hread
        simp at hread
  · rw [e] at hhour
    rw [hminute, hsecond, hmilli] at hwhen
    rw [e, hminute, hsecond]
    rcases hwhen with hnone | ⟨hm, hread⟩
    · rw [hnone] at hhour
      cases hhour
    · rw [hm, if_pos ⟨hread, by decide⟩]
      exact ⟨rfl, Iff.rfl⟩

/-- The fields that are reported of a text agree with each other, and the time by which the zone of the text is named is
made of a date that exists, an hour of the day and a minute of the hour. -/
theorem fieldsOfText_consistent (htext : text ≠ "") (h : fieldsOfText s (some text) pattern = .ok fields) :
    ∃ f r, DateFormat.strict s pattern none = .ok f ∧ f.readFields s text = .ok r ∧ fields = r.dateFields ∧
      fields.Consistent f.pattern.tokens ∧
      r.namingTime = .of r.namingDate (r.hour.getD 0) (r.minute.getD 0) 0 0 ∧
      r.namingDate.isValid = true ∧ r.hour.getD 0 < 24 ∧ r.minute.getD 0 < 60 := by
  obtain ⟨f, r, hf, hr, rfl⟩ := (fieldsOfText_eq_ok_iff htext).1 h
  obtain ⟨raw, dated, hraw, hdated, rfl⟩ := DateFormat.readFields_eq_ok_iff.1 hr
  obtain ⟨-, hnames, hstrict, -⟩ := DateFormat.of_bind hf
  have hcompletes := Reading.completesDate_of_withDate hdated
  have hcovers := DatePattern.covers_read hraw
  have hraws := DatePattern.inRange_read hstrict (by rw [hnames]; exact Names.proper_of _) hraw
  have hrange := (hcompletes.inRange hraws).withTime
  have hdate : dated.withTime.year = dated.year ∧ dated.withTime.month = dated.month ∧
      dated.withTime.day = dated.day ∧ dated.withTime.weekday = dated.weekday ∧ dated.withTime.zone = raw.zone := by
    have hzone : dated.zone = raw.zone := by
      rcases hcompletes with ⟨-, rfl⟩ | ⟨_, _, _, -, -, -, rfl⟩ <;> rfl
    rcases dated.withTime_cases with ⟨-, e⟩ | ⟨-, e⟩ <;> rw [e] <;> exact ⟨rfl, rfl, rfl, rfl, hzone⟩
  obtain ⟨hyear, hmonth, hday, hweekday, hzone⟩ := hdate
  have hexists : ∀ year month day, dated.withTime.year = some year → dated.withTime.month = some month →
      dated.withTime.day = some day →
      (⟨year, month, day⟩ : Date).isValid = true ∧ dated.withTime.weekday = some (⟨year, month, day⟩ : Date).weekday := by
    rw [hyear, hmonth, hday, hweekday]
    intro year month day
    exact hcompletes.date hraws
  refine ⟨f, _, hf, hr, rfl, ?_, Reading.namingTime_eq _, ?_, ?_, ?_⟩
  · exact
      { months := hrange.month, days := hrange.day, hours := hrange.hour, minutes := hrange.minute
        seconds := hrange.second, weekdays := hrange.weekday, date := hexists
        time := time_withTime hcompletes hcovers
        zone := by
          rw [← hcovers.zone, ← hzone]
          exact iff_of_eq (congrArg (· = true) Option.isSome_map) }
  · exact Reading.isValid_namingDate fun year month day hy hm hd => (hexists year month day hy hm hd).1
  · cases hh : dated.withTime.hour with
    | none => decide
    | some hour => exact Nat.lt_succ_of_le (hrange.hour hour hh)
  · cases hm : dated.withTime.minute with
    | none => decide
    | some minute => exact Nat.lt_succ_of_le (hrange.minute minute hm)

/-- The 31 February 2023 at eleven in the evening is the last day of that month, a Tuesday, on the full hour. -/
theorem fieldsOfText_consistent_february :
    ∃ fields, fieldsOfText .bare (some "2023-02-31 11 PM PST")
        (some "yyyy-MM-dd KK a z") = .ok fields ∧
      fields.days = some 28 ∧ (⟨2023, 2, 28⟩ : Date).isValid = true ∧
      fields.weekdays = some (⟨2023, 2, 28⟩ : Date).weekday ∧ (∀ n ∈ fields.hours, n ≤ 23) ∧
      fields.minutes.isSome = true ∧ fields.zone.isSome = true := by
  have h : fieldsOfText .bare (some "2023-02-31 11 PM PST")
      (some "yyyy-MM-dd KK a z") =
        .ok ⟨some 2023, some 2, some 2, some 28, some 23, some 0, some 0, some "PST"⟩ :=
    eq_ok_of_toOption (by decide +kernel)
  obtain ⟨f, r, -, -, -, hconsistent, -⟩ := fieldsOfText_consistent (by decide) h
  obtain ⟨hvalid, hweekday⟩ := hconsistent.date 2023 2 28 rfl rfl rfl
  exact ⟨_, h, rfl, hvalid, hweekday, hconsistent.hours, rfl, rfl⟩

end CivilTime
