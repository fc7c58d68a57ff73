import CivilTime.Proofs.Completed
import CivilTime.Proofs.Zone.FullMinutes

/-!
# The zone that is reported of a text

A zone goes by the name that it has at the date and time of the text (`DateFormat.zoneName_of_readFields`). The second of the text
does not count: the zone is named by the full minute. So the name is that of another time only where the clocks turn within the
minute, up to that second. Where the regions turn their clocks at full minutes, that has not happened since 1973.
-/

namespace CivilTime

theorem newYear_le_of_isValid {d : Date} (h : d.isValid = true) : newYear d.year ≤ 86400 * d.toDay := by
  have hyear := (yearOfSecond_bounds (86400 * d.toDay)).1
  unfold yearOfSecond at hyear
  rwa [Int.mul_ediv_cancel_left _ (by decide), Date.ofDay_toDay_of_isValid h] at hyear

theorem LocalTime.seconds_of (d : Date) (hour minute second : Nat) :
    (of d hour minute second 0).seconds = 86400 * d.toDay + 3600 * hour + 60 * minute + second := by
  unfold seconds of millisPerDay
  dsimp only
  omega

namespace Reading

variable {r : Reading}

/-- Where minute and second are read, nothing is left to complete. -/
theorem withTime_eq_self {m n : Nat} (hminute : r.minute = some m) (hsecond : r.second = some n) : r.withTime = r := by
  rcases r.withTime_cases with ⟨-, e⟩ | ⟨-, e⟩
  · rw [e]
    cases r
    cases hminute
    cases hsecond
    rfl
  · exact e

/-- Of a reading that is completed to a date and has a time of day all fields are reported, and the zone by the name of what it
reads the full minute with. -/
theorem dateFields_eq {d : Date} {hour minute second : Nat} {zone : Zone} (hyear : r.year = some d.year)
    (hmonth : r.month = some d.month) (hhour : r.hour = some hour) (hminute : r.minute = some minute)
    (hsecond : r.second = some second) (hzone : r.zone = some zone) :
    ({ r with day := some d.day, weekday := some d.weekday } : Reading).withTime.dateFields =
      ⟨some d.year, some d.month, some d.weekday, some d.day, some hour, some minute, some second,
        some (zone.atLocal false (LocalTime.of d hour minute 0 0).seconds).name⟩ := by
  rw [withTime_eq_self (r := { r with day := some d.day, weekday := some d.weekday }) hminute hsecond]
  unfold dateFields zoneName?
  rw [namingTime_eq, namingDate, hyear, hmonth, hhour, hminute, hsecond, hzone]
  rfl

end Reading

namespace DateFormat

variable {s : Surroundings} {f : DateFormat} {pattern : Option String} {text : String} {r : Reading} {zone : Zone}

/-- The fields of a text whose pattern names a date, a time of day and a zone are all reported, and the zone is reported by the
name of what it reads the full minute with: where a local time is repeated or skipped, that before the clocks change. This is
what it reads the second of the text with, unless the clocks turn within the minute up to that second, before 1973. -/
theorem zoneName_of_readFields (hdb : s.database.IsSound) (hturns : s.database.TurnsAtFullMinutes)
    (hf : DateFormat.strict s pattern none = .ok f) (htext : text ≠ "")
    (h : f.readFields s text = .ok r)
    (hdate : Named [.year, .extendedYear] f.pattern.tokens ∧ Named [.month, .standaloneMonth] f.pattern.tokens ∧
      Named [.day] f.pattern.tokens)
    (htime : Named [.hour] f.pattern.tokens ∧ Named [.minute] f.pattern.tokens ∧ Named [.second] f.pattern.tokens)
    (hzone : r.zone = some zone) :
    ∃ (d : Date) (hour minute second : Nat) (o : Observance),
      fieldsOfText s (some text) pattern = .ok ⟨some d.year, some d.month, some d.weekday, some d.day, some hour,
        some minute, some second, some o.name⟩ ∧
      d.isValid = true ∧ hour ≤ 23 ∧ minute ≤ 59 ∧ second ≤ 59 ∧
      zone.ReadsWith (LocalTime.of d hour minute 0 0).seconds o ∧
      ((1972 < d.year ∨ ∀ k, (LocalTime.of d hour minute 0 0).seconds < k →
          k ≤ (LocalTime.of d hour minute second 0).seconds → ¬zone.TurnsAt k) →
        zone.ReadsWith (LocalTime.of d hour minute second 0).seconds o) := by
  obtain ⟨raw, dated, hraw, hdated, rfl⟩ := readFields_eq_ok_iff.1 h
  obtain ⟨-, hnames, hstrict, -⟩ := of_bind hf
  have hcovers := DatePattern.covers_read hraw
  have hraws := DatePattern.inRange_read hstrict (by rw [hnames]; exact Names.proper_of _) hraw
  obtain ⟨d, hvalid, hyear, hmonth, rfl⟩ := (Reading.completesDate_of_withDate hdated).exists_date hraws
    (hcovers.year.2 hdate.1) (hcovers.month.2 hdate.2.1) (hcovers.day.2 hdate.2.2)
  obtain ⟨hour, hhour⟩ := Option.isSome_iff_exists.1 (DatePattern.isSome_hour_of_read hraw htime.1)
  obtain ⟨minute, hminute⟩ := Option.isSome_iff_exists.1 (hcovers.minute.2 htime.2.1)
  obtain ⟨second, hsecond⟩ := Option.isSome_iff_exists.1 (hcovers.second.2 htime.2.2)
  rw [Reading.withTime_frame] at hzone
  obtain ⟨name, hname⟩ := DatePattern.exists_readZone?_of_read hraw hzone
  have hsep := separated_of_readZone? hdb.separated hname
  refine ⟨d, hour, minute, second, _, (fieldsOfText_eq_ok_iff htext).2 ⟨f, _, hf, h,
    (Reading.dateFields_eq hyear hmonth hhour hminute hsecond hzone).symm⟩, hvalid, hraws.hour hour hhour,
    hraws.minute minute hminute, hraws.second second hsecond, hsep.reads_atLocal _, fun hsame => hsep.readsWith_iff.2 (Eq.symm ?_)⟩
  have hsecond_le := hraws.second second hsecond
  have hle := newYear_le_of_isValid hvalid
  rw [LocalTime.seconds_of, LocalTime.seconds_of] at hsame ⊢
  rcases hsame with hlate | hno
  · have := newYear_le (show 1973 ≤ d.year by omega)
    exact atLocal_eq_of_sameMinute hdb hturns hname (by omega) (by omega) (by omega) (by omega)
  · exact hsep.atLocal_eq_of_not_turnsAt (bounded_of_readZone? hdb.bounded hname) (by omega) hno

/-- In New York the hour from one to two of 7 November 2021 occurs twice; half past one is named by its first pass. -/
theorem zoneName_of_readFields_newYork :
    ∃ o, fieldsOfText .bare (some "2021-11-07 01:30:15 America/New_York")
        (some "yyyy-MM-dd HH:mm:ss VV") =
          .ok ⟨some 2021, some 11, some 7, some 7, some 1, some 30, some 15, some o.name⟩ ∧
      (Zone.region "America/New_York" Database.newYork).ReadsWith (LocalTime.of ⟨2021, 11, 7⟩ 1 30 15 0).seconds o := by
  obtain ⟨f, hf, htokens, r, hr, hzone⟩ : ∃ f, DateFormat.strict .bare
      (some "yyyy-MM-dd HH:mm:ss VV") none = .ok f ∧
      f.pattern.tokens = [.field .year 4, .literal ['-'], .field .month 2, .literal ['-'], .field .day 2, .literal [' '],
        .field .hour 2, .literal [':'], .field .minute 2, .literal [':'], .field .second 2, .literal [' '],
        .field .zoneId 2] ∧
      ∃ r, f.readFields .bare "2021-11-07 01:30:15 America/New_York" = .ok r ∧
        r.zone = some (.region "America/New_York" Database.newYork) :=
    ⟨⟨⟨"yyyy-MM-dd HH:mm:ss VV", none⟩, "en", some .utc, ⟨"yyyy-MM-dd HH:mm:ss VV", _, .english, false⟩⟩,
      eq_ok_of_toOption (by decide +kernel), rfl,
      ⟨some 2021, some 11, some 7, some 7, some 1, some 30, some 15, none,
        some (.region "America/New_York" Database.newYork)⟩,
      eq_ok_of_toOption (by decide +kernel), rfl⟩
  have hfields : fieldsOfText .bare (some "2021-11-07 01:30:15 America/New_York")
      (some "yyyy-MM-dd HH:mm:ss VV") =
        .ok ⟨some 2021, some 11, some 7, some 7, some 1, some 30, some 15, some "EDT"⟩ :=
    eq_ok_of_toOption (by decide +kernel)
  obtain ⟨⟨year, month, day⟩, hour, minute, second, o, hread, -, -, -, -, -, hreads⟩ :=
    zoneName_of_readFields Database.isSound_listed Database.turnsAtFullMinutes_listed hf (by decide) hr
      (by rw [htokens]; decide) (by rw [htokens]; decide) hzone
  have hsame := hread
  rw [hfields, Except.ok.injEq, DateFields.mk.injEq] at hsame
  simp only [Option.some.injEq] at hsame
  obtain ⟨rfl, rfl, -, rfl, rfl, rfl, rfl, -⟩ := hsame
  exact ⟨o, hread, hreads (.inl (by decide))⟩

/-- In New York the clocks turned from 12:03:58 back to noon on 18 November 1883, so 12:03:58 was shown in standard time only. It
is named by 12:03, which local mean time showed first. -/
theorem not_zoneName_of_readFields :
    fieldsOfText .bare (some "1883-11-18 12:03:58 America/New_York")
        (some "yyyy-MM-dd HH:mm:ss VV") =
          .ok ⟨some 1883, some 11, some 7, some 18, some 12, some 3, some 58, some "LMT"⟩ ∧
      ∀ o, (Zone.region "America/New_York" Database.newYork).ReadsWith
        (LocalTime.of ⟨1883, 11, 18⟩ 12 3 58 0).seconds o → o.name = "EST" := by
  have hsep : (Zone.region "America/New_York" Database.newYork).Separated :=
    Database.isSound_listed.separated "America/New_York" _ (by decide +kernel)
  refine ⟨eq_ok_of_toOption (by decide +kernel), fun o ho => ?_⟩
  rw [hsep.readsWith_iff.1 ho]
  decide +kernel

end DateFormat

end CivilTime
