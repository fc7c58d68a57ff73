import CivilTime.Format
import CivilTime.Proofs.Instants
import CivilTime.Proofs.Months
import CivilTime.Proofs.Outcome
import CivilTime.Proofs.Pattern.ReadBack

/-!
# Writing and reading back

A format reads back what it writes, where the pieces of its texts can be told apart (`Separable`, `WidthsFit`,
`ZonesAreOffsets`): its pattern reads the parts of the moment that it names (`DateFormat.read_write`). A lenient format whose
pattern names all parts of a local time (`NamesTime`) reads the instant, up to the seconds of an offset in the text or,
without an offset, to the second pass of a local time (`DateFormat.readInstant_write`). A strict format tells every
part that its pattern names (`DateFormat.readFields_write`), the hour only where it is settled.
-/

namespace CivilTime

/-! ### Formats -/

theorem DatePattern.of_eq_ok_iff {p : DatePattern} {text : String} {names : Names} {lenient : Bool} :
    DatePattern.of text names lenient = .ok p ↔ ∃ ts, CivilTime.tokens text.toList = .ok ts ∧
      p = ⟨text, ts, names, lenient⟩ := by
  unfold DatePattern.of
  cases CivilTime.tokens text.toList with
  | error flaw => simp
  | ok ts => simp [eq_comm]

/-- The zone that a format is bound to, UTC or one that the caller named, can be named. -/
theorem FormatSpec.exists_resolveZone?_of_boundZone {spec : FormatSpec} {db : Database} {zone : Zone}
    (h : spec.boundZone db = .ok (some zone)) : ∃ name, resolveZone? name db = some zone := by
  unfold boundZone at h
  split at h
  · rename_i name _
    cases hname : resolveZone name db with
    | error e =>
      rw [hname] at h
      cases h
    | ok named =>
      rw [hname] at h
      obtain rfl := Option.some.inj (Except.ok.inj h)
      exact ⟨name, resolveZone_eq_ok_iff.1 hname⟩
  · split at h
    · cases h
    · obtain rfl := Option.some.inj (Except.ok.inj h)
      exact ⟨"UTC", resolveZone?_utc db⟩

namespace DateFormat

variable {s : Surroundings} {db : Database} {f : DateFormat} {spec : FormatSpec} {locale : String} {lenient : Bool}
  {zone : Zone} {text : String} {r : Reading} {millis : Int} {m : Moment}

theorem bind_eq_ok_iff_exists :
    bind spec locale lenient db = .ok f ↔ ∃ ts zone, tokens spec.pattern.toList = .ok ts ∧
      spec.boundZone db = .ok zone ∧ f = ⟨spec, locale, zone, ⟨spec.pattern, ts, .of locale, lenient⟩⟩ := by
  unfold bind
  rw [bind_eq_ok_iff]
  constructor
  · rintro ⟨zone, hzone, h⟩
    obtain ⟨p, hp, he⟩ := bind_eq_ok_iff.1 h
    obtain ⟨ts, hts, rfl⟩ := DatePattern.of_eq_ok_iff.1 hp
    cases he
    exact ⟨ts, zone, hts, hzone, rfl⟩
  · rintro ⟨ts, zone, hts, hzone, rfl⟩
    exact ⟨zone, hzone, bind_eq_ok_iff.2 ⟨_, DatePattern.of_eq_ok_iff.2 ⟨ts, hts, rfl⟩, rfl⟩⟩

theorem of_bind (h : bind spec locale lenient db = .ok f) :
    tokens spec.pattern.toList = .ok f.pattern.tokens ∧ f.pattern.names = .of locale ∧ f.pattern.lenient = lenient ∧
      spec.boundZone db = .ok f.zone := by
  obtain ⟨ts, zone, hts, hzone, rfl⟩ := bind_eq_ok_iff_exists.1 h
  exact ⟨hts, rfl, rfl, hzone⟩

/-- The zone in which a format shows instants, the system's or one that it is bound to, can be named. -/
theorem exists_resolveZone?_of_shownZone (h : bind spec locale lenient s.database = .ok f)
    (hzone : f.shownZone s = .ok zone) : ∃ name, resolveZone? name s.database = some zone := by
  obtain ⟨-, -, -, hbound⟩ := of_bind h
  unfold shownZone at hzone
  split at hzone
  · rename_i bound he
    cases hzone
    rw [he] at hbound
    exact FormatSpec.exists_resolveZone?_of_boundZone hbound
  · exact Surroundings.exists_resolveZone?_of_zone hzone

theorem write_eq (hzone : f.shownZone s = .ok zone) (hm : Moment.ofMillis? millis zone = some m) :
    f.write s millis = .ok (f.pattern.write m) := by
  unfold write Moment.ofMillis
  rw [hzone]
  dsimp only [Bind.bind, Except.bind]
  rw [hm]
  rfl

theorem separated_of_shownZone (hdb : s.database.IsSeparated) (h : bind spec locale lenient s.database = .ok f)
    (hzone : f.shownZone s = .ok zone) : zone.Separated := by
  obtain ⟨name, hname⟩ := exists_resolveZone?_of_shownZone h hzone
  exact separated_of_resolveZone? hdb hname

theorem natAbs_offset_le (hdb : s.database.IsSeparated) (hoffsets : s.database.HasReadableOffsets)
    (h : bind spec locale lenient s.database = .ok f) (hzone : f.shownZone s = .ok zone)
    (hm : Moment.ofMillis? millis zone = some m) : m.offset.natAbs ≤ 64800 := by
  obtain ⟨name, hname⟩ := exists_resolveZone?_of_shownZone h hzone
  unfold Moment.offset
  rw [Moment.observance_of_ofMillis? (separated_of_resolveZone? hdb hname) hm]
  exact natAbs_offset_le_of_resolveZone? hoffsets hname _ (Zone.atUtc_mem _ _)

/-- The zone in the text, or else that of the format, decides. -/
theorem readingZone_of_or (h : r.zone.or f.zone = some zone) (s : Surroundings) : f.readingZone s r = .ok zone := by
  unfold readingZone shownZone
  rcases Option.or_eq_some_iff.1 h with hread | ⟨hnone, hbound⟩
  · rw [hread]
  · rw [hnone, hbound]

/-- A text whose fields and zone are known stands for the instant of its local time, if there is one. -/
theorem readInstant_of_read (hr : f.pattern.read s.today text s.database = .ok r) (hzone : f.readingZone s r = .ok zone) :
    f.readInstant s text =
      match r.localTime? with
      | some time => .ok (Moment.firstPass zone time).toMillis
      | none => .error (.malformedDate text f.spec.pattern .unsupportedYear) := by
  unfold readInstant
  rw [hr]
  dsimp only [Bind.bind, Except.bind]
  rw [hzone]
  rfl

/-- The fields of an instant's text. -/
theorem read_write (h : bind spec locale lenient db = .ok f) (hsep : Separable f.pattern.tokens)
    (hw : WidthsFit f.pattern.tokens) (hz : ZonesAreOffsets f.pattern.tokens) (ho : m.offset.natAbs ≤ 64800)
    (hm : Moment.ofMillis? millis zone = some m) (today : Date) (db : Database) :
    f.pattern.read today (f.pattern.write m) db =
      .ok ((f.pattern.readBack today m f.pattern.tokens).settle lenient) := by
  obtain ⟨htokens, hnames, hlenient, -⟩ := of_bind h
  obtain ⟨⟨-, htime⟩, -⟩ := Moment.ofMillis?_eq_some_iff.1 hm
  rw [← hlenient]
  apply DatePattern.read_write _ _ htime ho hsep hw hz (literalsNonempty_tokens htokens)
  · rw [hnames]
    exact Names.proper_of locale
  · rw [hnames]
    exact Names.distinct_of locale

end DateFormat

/-! ### From fields to an instant -/

/-- The fields of a date that exists and of a time of day are put together to the local time that they make. What is absent
counts as 1 January 1970 and as midnight. -/
theorem Reading.localTime?_of_isValid {r : Reading} {date : Date} (hdate : date.isValid = true)
    (hread : (⟨r.year.getD 1970, r.month.getD 1, r.day.getD 1⟩ : Date) = date) (hhour : r.hour.getD 0 < 24)
    (hminute : r.minute.getD 0 < 60) (hsecond : r.second.getD 0 < 60) (hmilli : r.millisecond.getD 0 < 1000) :
    r.localTime? =
      some (.of date (r.hour.getD 0) (r.minute.getD 0) (r.second.getD 0) (r.millisecond.getD 0)) := by
  have hsupported := LocalTime.isSupported_of hdate hhour hminute hsecond hmilli
  subst hread
  obtain ⟨hyear, ⟨hm, hm'⟩, -, -⟩ := Date.isValid_iff.1 hdate
  have hafter : (⟨r.year.getD 1970, 1, 1⟩ : Date).monthsAfter ((r.month.getD 1 : Int) - 1) =
      ⟨r.year.getD 1970, r.month.getD 1, 1⟩ := by
    dsimp only at hm hm'
    unfold Date.monthsAfter
    rw [Date.mk.injEq]
    refine ⟨?_, ?_, Nat.min_eq_left ?_⟩
    · dsimp only
      omega
    · dsimp only
      omega
    · exact Nat.le_trans (show 1 ≤ 28 by decide) (monthLength_bounds _ _).1
  have hstart : Date.addMonths ⟨r.year.getD 1970, 1, 1⟩ (if r.month.getD 1 = 0 then 0 else r.month.getD 1 - 1) =
      some ⟨r.year.getD 1970, r.month.getD 1, 1⟩ := by
    rw [if_neg (Nat.ne_of_gt hm), Date.addMonths_eq (Nat.le_refl 1) (show 1 ≤ 12 by decide), hafter, if_pos hyear]
  have hplus : (LocalTime.of ⟨r.year.getD 1970, r.month.getD 1, 1⟩ 0 0 0 0).plus
      (millisPerDay * ((r.day.getD 1 : Int) - 1) + 3600000 * r.hour.getD 0 + 60000 * r.minute.getD 0
        + 1000 * r.second.getD 0 + r.millisecond.getD 0) =
        .of ⟨r.year.getD 1970, r.month.getD 1, r.day.getD 1⟩ (r.hour.getD 0) (r.minute.getD 0) (r.second.getD 0)
          (r.millisecond.getD 0) := by
    unfold LocalTime.plus LocalTime.of Date.toDay
    rw [LocalTime.mk.injEq]
    unfold millisPerDay
    dsimp only
    omega
  have hguard : ∀ {p : Prop} [Decidable p], p → (guard p : Option Unit) = some () := fun h => if_pos h
  unfold localTime?
  dsimp only [Option.bind_eq_bind]
  rw [hguard hyear, hstart, Option.bind_some, Option.bind_some, hplus, hguard hsupported]
  rfl

/-- The fields of a local time are put together to that local time. -/
theorem Reading.localTime?_eq {r : Reading} {t : LocalTime} (ht : t.isSupported = true)
    (hyear : r.year = some t.date.year) (hmonth : r.month = some t.date.month) (hday : r.day = some t.date.day)
    (hhour : r.hour = some t.hour) (hminute : r.minute = some t.minute) (hsecond : r.second = some t.second)
    (hmilli : r.millisecond = some t.milli) : r.localTime? = some t := by
  have h := @localTime?_of_isValid r t.date (LocalTime.isValid_date ht) (by rw [hyear, hmonth, hday]; rfl)
    (by rw [hhour]; exact t.hour_lt) (by rw [hminute]; exact t.minute_lt) (by rw [hsecond]; exact t.second_lt)
    (by rw [hmilli]; exact t.milli_lt)
  rw [h, hhour, hminute, hsecond, hmilli]
  exact congrArg some t.of_date

/-! ### Texts of instants -/

/-- A pattern names all parts of a local time: the year, the month and so on down to the millisecond, and with hours of the
half-day its half. -/
structure NamesTime (tokens : List Token) : Prop where
  year : Named [.year, .extendedYear] tokens
  month : Named [.month, .standaloneMonth] tokens
  day : Named [.day] tokens
  hour : Named (.hour :: clockLetters) tokens
  half : Named [.halfDayHour, .clockHour] tokens → Named [.halfDay] tokens
  minute : Named [.minute] tokens
  second : Named [.second] tokens
  millisecond : Named [.millisecond] tokens

theorem NamesTime.hourTold {tokens : List Token} (h : NamesTime tokens) (lenient : Bool) :
    HourTold lenient tokens := by
  unfold HourTold
  cases hlast : lastField? clockLetters tokens with
  | none =>
    obtain ⟨letter, hletter, width, hmem⟩ := h.hour
    rcases List.mem_cons.1 hletter with rfl | hclock
    · exact ⟨.hour, List.mem_cons_self, width, hmem⟩
    · obtain ⟨field, hfield⟩ := Named.exists_lastField? ⟨letter, hclock, width, hmem⟩
      rw [hlast] at hfield
      cases hfield
  | some field =>
    obtain ⟨hletter, hmem⟩ := @mem_of_lastField? clockLetters field.1 field.2 tokens hlast
    rcases List.mem_cons.1 hletter with hone | hhalf
    · exact .inl hone
    · exact .inr (.inl (h.half ⟨field.1, hhalf, field.2, hmem⟩))

/-- Two digits stand for the years that begin 80 years before today. -/
theorem yearBack_lenient {today : Date} {width : Nat} {year : Int} (hy : 1 ≤ year)
    (h : width = 2 → today.year - 80 ≤ year ∧ year < today.year + 20) : yearBack true today width year = year := by
  unfold yearBack twoDigitYear
  by_cases hw : width = 2
  · obtain ⟨hle, hlt⟩ := h hw
    rw [if_pos hw, if_pos rfl]
    dsimp only
    split <;> omega
  · rw [if_neg hw]

namespace DateFormat

variable {s : Surroundings} {f : DateFormat} {pattern zoneName : Option String} {zone : Zone} {millis : Int} {m : Moment}

private theorem zone_settle_readBack {p : DatePattern} {today : Date} {tokens : List Token} (lenient : Bool)
    (h : ¬Named offsetLetters tokens) : ((p.readBack today m tokens).settle lenient).zone = none := by
  obtain ⟨hour, hsettle⟩ := (p.readBack today m tokens).exists_settle lenient
  rw [hsettle]
  simp only [DatePattern.readBack, lastField?_eq_none h, Option.bind_none]

/-- A lenient format whose pattern names all parts of a local time reads the text of an instant back as that instant. If the
text names an offset, the seconds of the offset are lost; otherwise the second pass of a local time that is repeated is
read as the first one. -/
theorem readInstant_write (hdb : s.database.IsSeparated) (hoffsets : s.database.HasReadableOffsets)
    (hf : DateFormat.lenient s pattern zoneName = .ok f) (hsep : Separable f.pattern.tokens)
    (hw : WidthsFit f.pattern.tokens) (hz : ZonesAreOffsets f.pattern.tokens) (hnames : NamesTime f.pattern.tokens)
    (hzone : f.shownZone s = .ok zone) (hm : Moment.ofMillis? millis zone = some m)
    (hyear : ∀ letter, lastField? [.year, .extendedYear] f.pattern.tokens = some (letter, 2) →
      s.today.year - 80 ≤ m.time.date.year ∧ m.time.date.year < s.today.year + 20) :
    ∃ text, f.write s millis = .ok text ∧
      (Named offsetLetters f.pattern.tokens → f.readInstant s text = .ok (millis + 1000 * (m.offset % 60))) ∧
      (¬Named offsetLetters f.pattern.tokens → ∃ result, f.readInstant s text = .ok result ∧
        zone.localTime result = m.time ∧
        (∀ other, zone.localTime other = m.time → result ≤ other) ∧
        (result = millis ↔ m.secondPass = false)) := by
  have hseparated := separated_of_shownZone hdb hf hzone
  have ho := natAbs_offset_le hdb hoffsets hf hzone hm
  obtain ⟨⟨-, htime⟩, -⟩ := Moment.ofMillis?_eq_some_iff.1 hm
  obtain ⟨-, -, hlenient, -⟩ := of_bind hf
  have hread := read_write hf hsep hw hz ho hm s.today s.database
  have htells := @DatePattern.tells_settle_readBack f.pattern.tokens f.pattern s.today m ho true
    fun letter width hlast => by
      rw [hlenient]
      apply yearBack_lenient (LocalTime.year_bounds htime).1
      rintro rfl
      exact hyear letter hlast
  have hhour := @DatePattern.hour_settle_readBack f.pattern.tokens f.pattern s.today m true (hnames.hourTold true)
  have hlocal := Reading.localTime?_eq htime (htells.year hnames.year) (htells.month hnames.month)
    (htells.day hnames.day) hhour (htells.minute hnames.minute) (htells.second hnames.second)
    (htells.millisecond hnames.millisecond)
  -- the zone in the text decides, if it names one; the local time is that of the moment in either case
  have hinstant : f.readInstant s (f.pattern.write m) =
      .ok (Moment.firstPass (((f.pattern.readBack s.today m f.pattern.tokens).settle true).zone.getD zone)
        m.time).toMillis := by
    have hreading : f.readingZone s ((f.pattern.readBack s.today m f.pattern.tokens).settle true) =
        .ok (((f.pattern.readBack s.today m f.pattern.tokens).settle true).zone.getD zone) := by
      unfold readingZone
      split
      · rename_i named hnamed
        rw [hnamed]
        rfl
      · rename_i hno
        rw [hzone, hno]
        rfl
    rw [readInstant_of_read hread hreading, hlocal]
  refine ⟨f.pattern.write m, write_eq hzone hm, fun hnamed => ?_, fun hno => ?_⟩
  · obtain ⟨name, hoffset⟩ := htells.zone hnamed
    have hmillis := Moment.toMillis_of_ofMillis? hseparated hm
    have hfixed : (Moment.firstPass (.fixed (60 * (m.offset / 60)) name) m.time).toMillis =
        m.time.millis - 1000 * (60 * (m.offset / 60)) := rfl
    rw [hinstant, hoffset, Option.getD_some, hfixed]
    unfold Moment.toMillis at hmillis
    congr 1
    omega
  · rw [zone_settle_readBack true hno] at hinstant
    exact ⟨_, hinstant, Moment.toMillis_firstPass_isLeast hseparated hm⟩

/-- The second half past one on 7 November 2021 in New York is read back from a text with its offset. -/
theorem readInstant_write_newYork :
    ∃ f text, DateFormat.lenient .bare (some "yyyy-MM-dd HH:mm:ss.SSS XXX")
        (some "America/New_York") = .ok f ∧
      f.write .bare 1636266600000 = .ok text ∧
      f.readInstant .bare text = .ok 1636266600000 := by
  have hf : DateFormat.lenient .bare (some "yyyy-MM-dd HH:mm:ss.SSS XXX")
      (some "America/New_York") = .ok
        ⟨⟨"yyyy-MM-dd HH:mm:ss.SSS XXX", some "America/New_York"⟩, "en",
          some (.region "America/New_York" Database.newYork),
          ⟨"yyyy-MM-dd HH:mm:ss.SSS XXX",
            [.field .year 4, .literal ['-'], .field .month 2, .literal ['-'], .field .day 2, .literal [' '],
              .field .hour 2, .literal [':'], .field .minute 2, .literal [':'], .field .second 2, .literal ['.'],
              .field .millisecond 3, .literal [' '], .field .isoOffset 3], .english, true⟩⟩ :=
    eq_ok_of_toOption (by decide +kernel)
  have hm : Moment.ofMillis? 1636266600000 (.region "America/New_York" Database.newYork) =
      some ⟨.region "America/New_York" Database.newYork, .of ⟨2021, 11, 7⟩ 1 30 0 0, true⟩ := by
    decide +kernel
  obtain ⟨text, hwrite, hread, -⟩ := readInstant_write Database.isSound_listed.separated Database.hasReadableOffsets_listed
    hf (by decide +kernel) (by decide) (by decide)
    ⟨by decide, by decide, by decide, by decide, by decide, by decide, by decide, by decide⟩ rfl hm (by
      intro letter hlast
      cases hlast)
  refine ⟨_, text, hf, hwrite, ?_⟩
  rw [hread (by decide)]
  exact congrArg Except.ok (by decide +kernel)

end DateFormat

/-! ### Fields of texts -/

namespace Reading

variable {r : Reading} {m : Moment} {tokens : List Token}

/-- Completing the date of a reading that agrees with a local time adds no more than the weekday. -/
private theorem Dates.withDate {t : LocalTime} (h : r.Dates t) (ht : t.isSupported = true) (text pattern : String) :
    r.withDate text pattern = .ok r ∨
      r.withDate text pattern = .ok { r with weekday := some (weekdayOfDay t.day) } := by
  obtain ⟨hy, hy'⟩ := LocalTime.year_bounds ht
  obtain ⟨-, -, -, hd⟩ := t.date_bounds
  unfold Reading.withDate
  split
  · rename_i year month day hyear hmonth hday
    obtain rfl := h.year year hyear
    obtain rfl := h.month month hmonth
    obtain rfl := h.day day hday
    have hclamped : Date.clamped ⟨t.date.year, t.date.month, t.date.day⟩ = t.date := by
      unfold Date.clamped
      rw [Nat.min_eq_left hd]
    have hweekday : t.date.weekday = weekdayOfDay t.day := congrArg weekdayOfDay (Date.toDay_ofDay t.day)
    have hright : r.weekday.any (· != t.date.weekday) = false := by
      cases hr : r.weekday with
      | none => rfl
      | some weekday =>
        rw [h.weekday weekday hr, hweekday]
        exact bne_self_eq_false _
    have hover : ¬2147483647 < t.date.year := by omega
    have hread : { r with day := some t.date.day, weekday := some t.date.weekday } =
        { r with weekday := some (weekdayOfDay t.day) } := by
      rw [hweekday, ← hday]
    right
    rw [if_neg hover, LocalTime.supportedYear_date ht, hclamped]
    dsimp only
    rw [hright, hread]
    rfl
  · exact .inl rfl

private theorem Tells.withWeekday (h : r.Tells m tokens) :
    Tells { r with weekday := some (weekdayOfDay m.time.day) } m tokens :=
  { h with weekday := fun _ => rfl }

private theorem Tells.withTime (h : r.Tells m tokens) : r.withTime.Tells m tokens := by
  unfold Reading.withTime
  split
  · have hminute : Named [.minute] tokens → some (r.minute.getD 0) = some m.time.minute := by
      intro hnamed
      rw [h.minute hnamed]
      rfl
    have hsecond : Named [.second] tokens → some (r.second.getD 0) = some m.time.second := by
      intro hnamed
      rw [h.second hnamed]
      rfl
    exact { h with minute := hminute, second := hsecond }
  · exact h

private theorem hour_withTime (r : Reading) : r.withTime.hour = r.hour := by
  unfold Reading.withTime
  split <;> rfl

end Reading

namespace DateFormat

variable {s : Surroundings} {f : DateFormat} {pattern zoneName : Option String} {zone : Zone} {millis : Int} {m : Moment}

private theorem hourTold_strict {tokens : List Token}
    (h : Named [.hour] tokens ∨ Named [.halfDay] tokens ∧ Named clockLetters tokens ∨
      ∃ width, lastField? clockLetters tokens = some (.hourFromOne, width)) : HourTold false tokens := by
  unfold HourTold
  cases hlast : lastField? clockLetters tokens with
  | none =>
    rcases h with hnamed | ⟨-, hnamed⟩ | ⟨width, hone⟩
    · exact hnamed
    · obtain ⟨field, hfield⟩ := hnamed.exists_lastField?
      rw [hlast] at hfield
      cases hfield
    · rw [hlast] at hone
      cases hone
  | some field =>
    rcases h with hnamed | ⟨hnamed, -⟩ | ⟨width, hone⟩
    · exact .inr (.inr ⟨rfl, hnamed⟩)
    · exact .inr (.inl hnamed)
    · rw [hlast, Option.some.injEq] at hone
      exact .inl (congrArg Prod.fst hone)

/-- A strict format without years of two digits reads the text of an instant, and tells all parts that its pattern names.
The hour is told by its letter `H`, by the half of the day with any other hour, and by the letter `k` if no hour of the
half-day follows its last field. -/
theorem readFields_write (hdb : s.database.IsSeparated) (hoffsets : s.database.HasReadableOffsets)
    (hf : DateFormat.strict s pattern zoneName = .ok f) (hsep : Separable f.pattern.tokens)
    (hw : WidthsFit f.pattern.tokens) (hz : ZonesAreOffsets f.pattern.tokens)
    (hyears : ∀ letter ∈ [Letter.year, .extendedYear], Token.field letter 2 ∉ f.pattern.tokens)
    (hzone : f.shownZone s = .ok zone) (hm : Moment.ofMillis? millis zone = some m) :
    ∃ text r, f.write s millis = .ok text ∧ f.readFields s text = .ok r ∧ r.Tells m f.pattern.tokens ∧
      (Named [.hour] f.pattern.tokens ∨
        Named [.halfDay] f.pattern.tokens ∧ Named clockLetters f.pattern.tokens ∨
        (∃ width, lastField? clockLetters f.pattern.tokens = some (.hourFromOne, width)) →
          r.hour = some m.time.hour) := by
  obtain ⟨⟨-, htime⟩, -⟩ := Moment.ofMillis?_eq_some_iff.1 hm
  have ho := natAbs_offset_le hdb hoffsets hf hzone hm
  have hread := read_write hf hsep hw hz ho hm s.today s.database
  have hyear : ∀ letter width, lastField? [.year, .extendedYear] f.pattern.tokens = some (letter, width) →
      yearBack f.pattern.lenient s.today width m.time.date.year = m.time.date.year := by
    intro letter width hlast
    obtain ⟨hletter, hmem⟩ := mem_of_lastField? hlast
    have hwidth : width ≠ 2 := by
      rintro rfl
      exact hyears letter hletter hmem
    exact if_neg hwidth
  have htells := @DatePattern.tells_settle_readBack f.pattern.tokens f.pattern s.today m ho false hyear
  have hdates := @DatePattern.dates_settle_readBack f.pattern.tokens f.pattern s.today m false hyear
  -- completing the date neither rejects nor changes a part that is named
  have hcompleted : ∃ r, ((f.pattern.readBack s.today m f.pattern.tokens).settle false).withDate (f.pattern.write m)
      f.spec.pattern = .ok r ∧ r.Tells m f.pattern.tokens ∧
        r.hour = ((f.pattern.readBack s.today m f.pattern.tokens).settle false).hour := by
    rcases hdates.withDate htime (f.pattern.write m) f.spec.pattern with e | e
    · exact ⟨_, e, htells, rfl⟩
    · exact ⟨_, e, htells.withWeekday, rfl⟩
  obtain ⟨r, hdate, hr, hhour⟩ := hcompleted
  refine ⟨f.pattern.write m, r.withTime, write_eq hzone hm, ?_, hr.withTime, fun h => ?_⟩
  · unfold readFields
    rw [hread]
    change (Reading.withDate _ _ _ >>= fun r => Except.ok r.withTime) = _
    rw [hdate]
    rfl
  · rw [Reading.hour_withTime, hhour]
    exact DatePattern.hour_settle_readBack (hourTold_strict h)

/-- The time of day on the clock of the half-day is read back with the half of the day. -/
theorem readFields_write_afternoon :
    ∃ f text r, DateFormat.strict .bare (some "yyyy-MM-dd hh:mm a") none = .ok f ∧
      f.write .bare 46800000 = .ok text ∧
      f.readFields .bare text = .ok r ∧ r.year = some 1970 ∧ r.hour = some 13 := by
  have hf : DateFormat.strict .bare (some "yyyy-MM-dd hh:mm a") none = .ok
      ⟨⟨"yyyy-MM-dd hh:mm a", none⟩, "en", some .utc,
        ⟨"yyyy-MM-dd hh:mm a",
          [.field .year 4, .literal ['-'], .field .month 2, .literal ['-'], .field .day 2, .literal [' '],
            .field .clockHour 2, .literal [':'], .field .minute 2, .literal [' '], .field .halfDay 1],
          .english, false⟩⟩ :=
    eq_ok_of_toOption (by decide +kernel)
  have hm : Moment.ofMillis? 46800000 .utc = some ⟨.utc, .of ⟨1970, 1, 1⟩ 13 0 0 0, false⟩ := by decide +kernel
  obtain ⟨text, r, hwrite, hread, htells, hhour⟩ := readFields_write Database.isSound_listed.separated
    Database.hasReadableOffsets_listed hf (by decide +kernel) (by decide) (by decide) (by decide) rfl hm
  exact ⟨_, text, r, hf, hwrite, hread, htells.year (by decide), hhour (.inr (.inl (by decide)))⟩

/-- The hour on the clock from 1 to 24 is not told where an hour of the half-day follows it without the half of the day. -/
theorem readFields_write_hour_open :
    ∃ f r, DateFormat.strict .bare (some "kk hh") none = .ok f ∧
      Separable f.pattern.tokens ∧ WidthsFit f.pattern.tokens ∧ ZonesAreOffsets f.pattern.tokens ∧
      Named [.hourFromOne] f.pattern.tokens ∧
      f.shownZone .bare = .ok .utc ∧
      Moment.ofMillis? 46800000 .utc = some ⟨.utc, .of ⟨1970, 1, 1⟩ 13 0 0 0, false⟩ ∧
      f.write .bare 46800000 = .ok "13 01" ∧
      f.readFields .bare "13 01" = .ok r ∧ r.hour = none := by
  refine ⟨⟨⟨"kk hh", none⟩, "en", some .utc,
    ⟨"kk hh", [.field .hourFromOne 2, .literal [' '], .field .clockHour 2], .english, false⟩⟩, .empty,
    eq_ok_of_toOption (by decide +kernel), by decide +kernel, by decide, by decide, by decide, rfl, by decide +kernel,
    eq_ok_of_toOption (by decide +kernel), eq_ok_of_toOption (by decide +kernel), rfl⟩

end DateFormat

end CivilTime
