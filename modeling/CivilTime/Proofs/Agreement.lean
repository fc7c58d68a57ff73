import CivilTime.Proofs.Completed
import CivilTime.Proofs.Pattern.Digits
import CivilTime.Proofs.ReadingZones
import CivilTime.Timestamp

/-!
# Fields of a text and of its instant

A text has fields of its own, read exactly, and stands for an instant, read leniently. Where the pattern names no zone, both
readings are of UTC (`DateFormat.exists_lenient_of_strict`), the instant is that of the date and time of day in the text
(`Reading.localTime?_of_isValid`), and so the fields that are reported of the text are those of its instant
(`readMillis_of_fieldsOfText`).
-/

namespace CivilTime

/-! ### Patterns without zones -/

/-- Without zones and with the names of generic English, the lenient format of a request has the pattern of the strict one,
read leniently, and is bound to UTC. -/
theorem DateFormat.exists_lenient_of_strict {s : Surroundings} {pattern : Option String} {f : DateFormat}
    (hf : DateFormat.strict s pattern none = .ok f) (hlocale : s.locale ≠ britishEnglish)
    (hz : ¬Named zoneLetters f.pattern.tokens) :
    ∃ g, DateFormat.lenient s pattern none = .ok g ∧ g.pattern = f.pattern.leniently ∧ g.zone = some .utc := by
  obtain ⟨ts, zone, hts, hzone, rfl⟩ := bind_eq_ok_iff_exists.1 hf
  have hnames : Names.of (pinnedLocale s.locale) = .of s.locale := by
    unfold pinnedLocale
    rw [if_neg hlocale]
  have hbound : (FormatSpec.of pattern none).boundZone s.database = .ok (some .utc) := by
    have hno : isZonePattern (FormatSpec.of pattern none).pattern = false := by
      rw [← Bool.not_eq_true]
      exact fun h => hz (named_of_isZonePattern h hts)
    change Except.ok (if isZonePattern (FormatSpec.of pattern none).pattern then none else some Zone.utc) = _
    rw [hno]
    rfl
  refine ⟨_, bind_eq_ok_iff_exists.2 ⟨ts, some .utc, hts, hbound, rfl⟩, ?_, rfl⟩
  rw [DatePattern.leniently, hnames]

/-! ### Fractions of a second -/

/-- Up to three digits of a fraction stand for less than a second. -/
theorem DatePattern.millisecond_lt_of_read {p : DatePattern} {today : Date} {text : String} {db : Database} {r : Reading}
    (hwidth : ∀ width, Token.field .millisecond width ∈ p.tokens → width ≤ 3) (hstrict : p.lenient = false)
    (h : p.read today text db = .ok r) : ∀ n ∈ r.millisecond, n < 1000 := by
  intro n hn
  obtain ⟨width, hmem, hlt⟩ := (fitsWidths_read hstrict h).millisecond n hn
  rwa [Nat.max_eq_right (hwidth width hmem)] at hlt

/-! ### Fields of instants -/

/-- In UTC the fields of an instant are those of the time that has its milliseconds. -/
theorem fieldOfInstant_utc {millis : Int} (h : (⟨millis⟩ : LocalTime).isSupported = true) (unit : Option String)
    (db : Database) : fieldOfInstant (some millis) unit "UTC" db = .ok (some ((⟨millis⟩ : LocalTime).field unit)) := by
  have hzone : resolveZone "UTC" db = .ok .utc := resolveZone_eq_ok_iff.2 (resolveZone?_utc db)
  have hmoment : Moment.ofMillis millis .utc = .ok ⟨.utc, ⟨millis⟩, false⟩ := by
    have htime : (⟨millis⟩ : LocalTime).plus (1000 * 0) = ⟨millis⟩ := by simp [LocalTime.plus]
    unfold Moment.ofMillis Moment.ofMillis?
    simp only [Zone.utc, Zone.atUtc, htime, h, Bool.and_self, if_true]
  unfold fieldOfInstant
  dsimp only
  rw [hzone]
  change (Moment.ofMillis millis .utc >>= fun m => Except.ok (some (m.time.field unit))) = _
  rw [hmoment]
  rfl

/-- The numbers that are reported, by their names. -/
theorem DateFields.number_mem_entries_iff {f : DateFields} {name : String} {n : Int} :
    (name, FieldValue.number n) ∈ f.entries ↔
      (name = "years" ∧ f.years = some n) ∨ (name = "months" ∧ f.months.map Nat.cast = some n) ∨
      (name = "weekdays" ∧ f.weekdays.map Nat.cast = some n) ∨ (name = "days" ∧ f.days.map Nat.cast = some n) ∨
      (name = "hours" ∧ f.hours.map Nat.cast = some n) ∨ (name = "minutes" ∧ f.minutes.map Nat.cast = some n) ∨
      (name = "seconds" ∧ f.seconds.map Nat.cast = some n) := by
  have hzone : (name, FieldValue.number n) ∉ (f.zone.map fun zone => ("zoneid", FieldValue.text zone)).toList := by
    cases f.zone <;> simp
  have hnumber : ∀ field : String × Option Int,
      (field.2.map fun n => (field.1, FieldValue.number n)) = some (name, .number n) ↔ (name, some n) = field := by
    rintro ⟨field, value⟩
    cases value <;> simp [eq_comm]
  unfold entries
  rw [List.mem_append, or_iff_left hzone]
  simp only [List.mem_filterMap, hnumber, exists_eq_right', List.mem_cons, List.not_mem_nil, or_false, Prod.mk.injEq]
  simp only [eq_comm (a := some n)]

/-- Fields are reported of a text under the names by which they are read off an instant. -/
theorem LocalTime.field_names (t : LocalTime) :
    t.field (some "years") = t.date.year ∧ t.field (some "months") = t.date.month ∧
      t.field (some "days") = t.date.day ∧ t.field (some "hours") = t.hour ∧ t.field (some "minutes") = t.minute ∧
      t.field (some "seconds") = t.second := by
  have hyears : DurationUnit.ofName? "years" = none ∧ CalendarUnit.ofName? "years" = some .year := by decide +kernel
  have hmonths : DurationUnit.ofName? "months" = none ∧ CalendarUnit.ofName? "months" = some .month := by
    decide +kernel
  have hunits : DurationUnit.ofName? "days" = some .day ∧ DurationUnit.ofName? "hours" = some .hour ∧
      DurationUnit.ofName? "minutes" = some .minute ∧ DurationUnit.ofName? "seconds" = some .second := by
    decide +kernel
  unfold field
  simp only [Option.bind_some, hyears, hmonths, hunits, and_self]

/-! ### Fields of texts -/

namespace Reading

variable {r r' : Reading}

/-- The date of a reading is that of the time, as far as it is read, and the time of day as well. -/
structure Agrees (r : Reading) (t : LocalTime) : Prop where
  year : ∀ n ∈ r.year, t.date.year = n
  month : ∀ n ∈ r.month, t.date.month = n
  day : ∀ n ∈ r.day, t.date.day = n
  hour : ∀ n ∈ r.hour, t.hour = n
  minute : ∀ n ∈ r.minute, t.minute = n
  second : ∀ n ∈ r.second, t.second = n

/-- A reading agrees with the time that its date and time of day make, where they exist. -/
theorem agrees_of_isValid (hdate : (⟨r.year.getD 1970, r.month.getD 1, r.day.getD 1⟩ : Date).isValid = true)
    (hrange : r.InRange) (hmilli : ∀ n ∈ r.millisecond, n < 1000) :
    ∃ t, r.localTime? = some t ∧ t.isSupported = true ∧ r.Agrees t ∧ (r.minute = none → t.minute = 0) ∧
      (r.second = none → t.second = 0) := by
  have hbelow : ∀ {o : Option Nat} {bound : Nat}, 0 < bound → (∀ n ∈ o, n < bound) → o.getD 0 < bound := by
    intro o bound hpos h
    cases o with
    | none => exact hpos
    | some n => exact h n rfl
  have hhour := hbelow (show 0 < 24 by decide) fun n hn => Nat.lt_succ_of_le (hrange.hour n hn)
  have hminute := hbelow (show 0 < 60 by decide) fun n hn => Nat.lt_succ_of_le (hrange.minute n hn)
  have hsecond := hbelow (show 0 < 60 by decide) fun n hn => Nat.lt_succ_of_le (hrange.second n hn)
  have hmilli := hbelow (show 0 < 1000 by decide) hmilli
  obtain ⟨hd, hh, hmin, hs⟩ := LocalTime.parts_of hdate hhour hminute hsecond hmilli
  have hread : ∀ {α : Type} {o : Option α} {a d : α}, a = o.getD d → ∀ n ∈ o, a = n := by
    rintro α o a d h n rfl
    exact h
  refine ⟨_, localTime?_of_isValid hdate rfl hhour hminute hsecond hmilli,
    LocalTime.isSupported_of hdate hhour hminute hsecond hmilli,
    ⟨hread (congrArg Date.year hd), hread (congrArg Date.month hd), hread (congrArg Date.day hd), hread hh, hread hmin,
      hread hs⟩, fun hn => ?_, fun hn => ?_⟩
  · rw [hmin, hn]
    rfl
  · rw [hs, hn]
    rfl

/-- Completing a date that exists changes nothing but the weekday. -/
theorem CompletesDate.agrees {t : LocalTime} (h : r.CompletesDate r')
    (hdate : (⟨r.year.getD 1970, r.month.getD 1, r.day.getD 1⟩ : Date).isValid = true) (hr : r.Agrees t) :
    r'.Agrees t := by
  rcases h with ⟨-, rfl⟩ | ⟨year, month, day, ⟨hyear, hmonth, hday⟩, -, -, rfl⟩
  · exact hr
  · rw [hyear, hmonth, hday] at hdate
    have hsame : (Date.clamped ⟨year, month, day⟩) = ⟨year, month, day⟩ := Date.clamped_of_isValid hdate
    refine { hr with day := fun n hn => ?_ }
    rw [hsame] at hn
    exact hr.day n (hday.trans hn)

theorem Agrees.withTime {t : LocalTime} (hr : r.Agrees t) (hminute : r.minute = none → t.minute = 0)
    (hsecond : r.second = none → t.second = 0) : r.withTime.Agrees t := by
  have hread : ∀ {o : Option Nat} {a : Nat}, (∀ n ∈ o, a = n) → (o = none → a = 0) → ∀ n ∈ some (o.getD 0), a = n := by
    rintro o a hsome hnone n ⟨⟩
    cases o with
    | none => exact hnone rfl
    | some n => exact hsome n rfl
  rcases r.withTime_cases with ⟨-, e⟩ | ⟨-, e⟩
  · rw [e]
    exact { hr with minute := hread hr.minute hminute, second := hread hr.second hsecond }
  · rwa [e]

/-- The fields that are reported of a reading are read off the time that it agrees with. -/
theorem Agrees.field_eq {t : LocalTime} (hr : r.Agrees t) {name : String} {n : Int}
    (h : (name, FieldValue.number n) ∈ r.dateFields.entries) (hname : name ≠ "weekdays") : t.field (some name) = n := by
  obtain ⟨hyears, hmonths, hdays, hhours, hminutes, hseconds⟩ := t.field_names
  have hcast : ∀ {o : Option Nat} {a : Nat}, (∀ n ∈ o, a = n) → o.map Nat.cast = some n → (a : Int) = n := by
    intro o a hread ho
    obtain ⟨m, hm, rfl⟩ := Option.map_eq_some_iff.1 ho
    rw [hread m hm]
  rcases DateFields.number_mem_entries_iff.1 h with ⟨rfl, hn⟩ | ⟨rfl, hn⟩ | ⟨rfl, hn⟩ | ⟨rfl, hn⟩ | ⟨rfl, hn⟩ |
    ⟨rfl, hn⟩ | ⟨rfl, hn⟩
  · rw [hyears]
    exact hr.year n hn
  · rw [hmonths]
    exact hcast hr.month hn
  · exact absurd rfl hname
  · rw [hdays]
    exact hcast hr.day hn
  · rw [hhours]
    exact hcast hr.hour hn
  · rw [hminutes]
    exact hcast hr.minute hn
  · rw [hseconds]
    exact hcast hr.second hn

end Reading

/-- Where the pattern is separable and reads alike in both ways, and the date in a text exists, the text stands for an
instant, and the fields that are reported of the text are those of the instant in UTC. With a complete date the weekday is
that of the instant as well. -/
theorem readMillis_of_fieldsOfText {s : Surroundings} {pattern : Option String} {text : String} {f : DateFormat}
    {raw : Reading} {fields : DateFields} (hf : DateFormat.strict s pattern none = .ok f)
    (hlocale : s.locale ≠ britishEnglish) (hsep : Separable f.pattern.tokens) (halike : ReadsAlike f.pattern.tokens)
    (hmilli : ∀ width, Token.field .millisecond width ∈ f.pattern.tokens → width ≤ 3) (htext : text ≠ "")
    (hfields : fieldsOfText s (some text) pattern = .ok fields) (hraw : f.pattern.read s.today text s.database = .ok raw)
    (hdate : (⟨raw.year.getD 1970, raw.month.getD 1, raw.day.getD 1⟩ : Date).isValid = true) :
    ∃ millis, readMillis s (some text) pattern none = .ok (some millis) ∧
      (∀ name n, (name, FieldValue.number n) ∈ fields.entries → name ≠ "weekdays" →
        fieldOfInstant (some millis) (some name) "UTC" s.database = .ok (some n)) ∧
      (fields.years.isSome = true → fields.months.isSome = true → fields.days.isSome = true →
        fields.weekdays = some (⟨millis⟩ : LocalTime).date.weekday) := by
  obtain ⟨htokens, hnames, hstrict, -⟩ := DateFormat.of_bind hf
  have hproper : f.pattern.names.Proper := by
    rw [hnames]
    exact Names.proper_of _
  obtain ⟨f', r, hf', hr, rfl⟩ := (fieldsOfText_eq_ok_iff htext).1 hfields
  obtain rfl : f = f' := Except.ok.inj (hf.symm.trans hf')
  obtain ⟨raw', dated, hraw', hdated, rfl⟩ := DateFormat.readFields_eq_ok_iff.1 hr
  obtain rfl : raw = raw' := Except.ok.inj (hraw.symm.trans hraw')
  -- the time that the text shows, as exact reading has it
  have hrange := DatePattern.inRange_read hstrict hproper hraw
  obtain ⟨t, htime, hsupported, hagrees, hminute, hsecond⟩ := Reading.agrees_of_isValid hdate hrange
    (DatePattern.millisecond_lt_of_read hmilli hstrict hraw)
  have hcompletes := Reading.completesDate_of_withDate hdated
  have hsame : dated.minute = raw.minute ∧ dated.second = raw.second := by
    rcases hcompletes with ⟨-, rfl⟩ | ⟨_, _, _, -, -, -, rfl⟩ <;> exact ⟨rfl, rfl⟩
  have hdone : dated.withTime.Agrees t := (hcompletes.agrees hdate hagrees).withTime
    (by rw [hsame.1]; exact hminute) (by rw [hsame.2]; exact hsecond)
  -- lenient reading has the same time, and no other zone than UTC
  obtain ⟨g, hg, hpattern, hzone⟩ := DateFormat.exists_lenient_of_strict hf hlocale halike.zone
  have hread := DatePattern.read_leniently hstrict hproper (occupies_tokens htokens) hsep halike hraw
  have hnone : raw.zone = none := by
    rw [← Option.not_isSome_iff_eq_none, (DatePattern.covers_read hraw).zone]
    exact halike.zone
  have hinstant : g.readInstant s text = .ok t.millis := by
    rw [← hpattern] at hread
    rw [DateFormat.readInstant_of_read hread (DateFormat.readingZone_of_or (by rw [hnone, hzone]; rfl) s), htime]
    change Except.ok (t.millis - 1000 * 0) = _
    rw [Int.mul_zero, Int.sub_zero]
  refine ⟨t.millis, bind_eq_ok_iff.2 ⟨g, hg, bind_eq_ok_iff.2 ⟨t.millis, hinstant, rfl⟩⟩, ?_, ?_⟩
  · intro name n hmem hname
    rw [fieldOfInstant_utc hsupported, hdone.field_eq hmem hname]
  · intro hyear hmonth hday
    obtain ⟨year, hyear⟩ := Option.isSome_iff_exists.1 hyear
    obtain ⟨month, hmonth⟩ := Option.isSome_iff_exists.1 hmonth
    obtain ⟨day, hday⟩ := Option.isSome_iff_exists.1 hday
    have hdate' : t.date = ⟨year, month, day⟩ := by
      rw [← hdone.year year hyear, ← hdone.month month hmonth, ← hdone.day day hday]
    have hkeeps : dated.withTime.year = dated.year ∧ dated.withTime.month = dated.month ∧
        dated.withTime.day = dated.day ∧ dated.withTime.weekday = dated.weekday := by
      rcases dated.withTime_cases with ⟨-, e⟩ | ⟨-, e⟩ <;> rw [e] <;> exact ⟨rfl, rfl, rfl, rfl⟩
    obtain ⟨hky, hkm, hkd, hkw⟩ := hkeeps
    obtain ⟨-, hweekday⟩ := hcompletes.date hrange (hky.symm.trans hyear) (hkm.symm.trans hmonth) (hkd.symm.trans hday)
    change dated.withTime.weekday = some t.date.weekday
    rw [hkw, hweekday, hdate']

/-- Half past eleven in the evening of 28 February 2023, the year in Arabic digits. -/
theorem readMillis_of_fieldsOfText_arabic :
    ∃ fields millis, fieldsOfText .bare (some "٢٠٢٣-02-28 11:30 PM")
        (some "yyyy-MM-dd hh:mm a") = .ok fields ∧
      readMillis .bare (some "٢٠٢٣-02-28 11:30 PM")
        (some "yyyy-MM-dd hh:mm a") none = .ok (some millis) ∧
      fieldOfInstant (some millis) (some "years") "UTC" .listed = .ok (some 2023) ∧
      fieldOfInstant (some millis) (some "hours") "UTC" .listed = .ok (some 23) ∧
      fields.weekdays = some (⟨millis⟩ : LocalTime).date.weekday := by
  have hf : DateFormat.strict .bare (some "yyyy-MM-dd hh:mm a") none = .ok
      ⟨⟨"yyyy-MM-dd hh:mm a", none⟩, "en", some .utc,
        ⟨"yyyy-MM-dd hh:mm a",
          [.field .year 4, .literal ['-'], .field .month 2, .literal ['-'], .field .day 2, .literal [' '],
            .field .clockHour 2, .literal [':'], .field .minute 2, .literal [' '], .field .halfDay 1],
          .english, false⟩⟩ :=
    eq_ok_of_toOption (by decide +kernel)
  have hfields : fieldsOfText .bare (some "٢٠٢٣-02-28 11:30 PM")
      (some "yyyy-MM-dd hh:mm a") =
        .ok ⟨some 2023, some 2, some 2, some 28, some 23, some 30, some 0, none⟩ :=
    eq_ok_of_toOption (by decide +kernel)
  obtain ⟨millis, hmillis, hnumbers, hweekday⟩ := @readMillis_of_fieldsOfText _ _ _ _
    ⟨some 2023, some 2, some 28, none, some 23, some 30, none, none, none⟩ _ hf (by decide) (by decide +kernel)
    (by decide) (by
      intro width h
      simp at h)
    (by decide) hfields (eq_ok_of_toOption (by decide +kernel)) (by decide)
  exact ⟨_, millis, hfields, hmillis, hnumbers "years" 2023 (by decide) (by decide),
    hnumbers "hours" 23 (by decide) (by decide), hweekday rfl rfl rfl⟩

end CivilTime
