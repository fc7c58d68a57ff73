import CivilTime.Addition
import CivilTime.Fields
import CivilTime.Proofs.ReadingZones
import CivilTime.Timestamp

/-!
# What is taken from the surroundings

Of the settings of a system an operation uses the names of the locale, the zone where none is given, and the year of today
where a text tells a year by two digits. Exact reading uses none of them. Lenient reading never uses the zone, since a
format that is bound to none reads only texts that name one (`DateFormat.exists_zone_of_read`). So in two surroundings with
one database of regions an operation has the same outcome where they agree on what it uses (`outcomes_eq_of_surroundings`).
-/

namespace CivilTime

/-! ### Reading -/

/-- A field of two digits stands for the year. -/
def HasShortYear (tokens : List Token) : Prop :=
  ∃ letter ∈ [Letter.year, .extendedYear], Token.field letter 2 ∈ tokens

section

variable {p : DatePattern} {today today' : Date}

private theorem takeNumber_congr {lenient : Bool} {letter : Letter} {width : Nat}
    (h : lenient = true → HasShortYear [.field letter width] → today.year = today'.year) (r : OpenReading)
    (raw : List Char) (value : Nat) :
    r.takeNumber lenient today letter width raw value = r.takeNumber lenient today' letter width raw value := by
  have hyear : letter ∈ [Letter.year, .extendedYear] → width = 2 →
      twoDigitYear lenient today value = twoDigitYear lenient today' value := by
    rintro hletter rfl
    cases lenient with
    | false => rfl
    | true =>
      unfold twoDigitYear
      rw [h rfl ⟨letter, hletter, List.mem_singleton_self _⟩]
  unfold OpenReading.takeNumber
  cases letter with
  | year | extendedYear =>
    by_cases hwidth : width = 2
    · rw [hyear (by decide) hwidth]
    · rw [decide_eq_false hwidth, Bool.false_and]
      rfl
  | _ => rfl

/-- Reading uses the year of today for a year of two digits only, and only leniently. -/
theorem DatePattern.read_congr (h : p.lenient = true → HasShortYear p.tokens → today.year = today'.year)
    (text : String) (db : Database) : p.read today text db = p.read today' text db := by
  have hstep : ∀ token ∈ p.tokens, ∀ raw r,
      p.take today text db r (token, raw) = p.take today' text db r (token, raw) := by
    intro token hmem raw r
    cases token with
    | literal text => rfl
    | field letter width =>
      have hnumber := @takeNumber_congr today today' p.lenient letter width (fun hlenient ⟨next, hnext, hfield⟩ => by
        refine h hlenient ⟨next, hnext, ?_⟩
        rwa [List.mem_singleton.1 hfield])
      unfold take takeField
      simp only [hnumber]
  unfold read
  split
  · rfl
  · rw [foldlM_congr fun taken hmem r => hstep taken.1 (List.of_mem_zip hmem).1 taken.2 r]

end

/-! ### Formats -/

namespace DateFormat

variable {s s' : Surroundings} {db : Database} {spec : FormatSpec} {locale locale' : String} {lenient : Bool} {f : DateFormat}

/-- With the same names the formats of a request differ in nothing but the locale. -/
theorem bind_congr (h : Names.of locale = .of locale') :
    bind spec locale' lenient db = (bind spec locale lenient db).map fun f => { f with locale := locale' } := by
  unfold bind
  cases spec.boundZone db with
  | error e => rfl
  | ok zone =>
    rw [h]
    change (DatePattern.of spec.pattern (.of locale') lenient >>= _) =
      Except.map _ (DatePattern.of spec.pattern (.of locale') lenient >>= _)
    cases DatePattern.of spec.pattern (.of locale') lenient with
    | error e => rfl
    | ok pattern => rfl

theorem readInstant_congr (hdb : s.database = s'.database) (hf : bind spec locale lenient s.database = .ok f)
    (h : f.pattern.lenient = true → HasShortYear f.pattern.tokens → s.today.year = s'.today.year) (text : String) :
    f.readInstant s text = f.readInstant s' text := by
  have hsame : f.pattern.read s.today text s.database = f.pattern.read s'.today text s'.database := by
    rw [DatePattern.read_congr h text, hdb]
  cases hr : f.pattern.read s.today text s.database with
  | error e =>
    unfold readInstant
    rw [← hsame, hr]
    rfl
  | ok r =>
    obtain ⟨zone, hzone⟩ := exists_zone_of_read hf hr
    rw [readInstant_of_read hr (readingZone_of_or hzone s), readInstant_of_read (hsame ▸ hr) (readingZone_of_or hzone s')]

/-- The formats of a request have the same outcome under two settings, where they have it under the names of the first
one. -/
private theorem bind_lenient_congr {α : Type} {pattern zoneName : Option String}
    {run run' : DateFormat → Except Error α} (hdb : s.database = s'.database) (hnames : Names.of s.locale = .of s'.locale)
    (hrun : ∀ f, DateFormat.lenient s pattern zoneName = .ok f → run f = run' { f with locale := s'.locale }) :
    (DateFormat.lenient s pattern zoneName >>= run) = (DateFormat.lenient s' pattern zoneName >>= run') := by
  have hbind : DateFormat.lenient s' pattern zoneName =
      (DateFormat.lenient s pattern zoneName).map fun f => { f with locale := s'.locale } := by
    unfold DateFormat.lenient
    rw [← hdb]
    exact bind_congr hnames
  rw [hbind]
  cases hf : DateFormat.lenient s pattern zoneName with
  | error e => rfl
  | ok f => exact hrun f hf

end DateFormat

/-! ### Operations -/

/-- A caller asks for the system's zone in a text: by one to three letters for zones, and naming no zone. -/
def AsksSystemZone (pattern zoneName : Option String) : Prop :=
  zoneName.getD "" = "" ∧ ∃ text, pattern = some text ∧ text.toList.length ∈ [1, 2, 3] ∧
    ∀ c ∈ text.toList, c ∈ ['X', 'x', 'Z', 'z', 'V', 'O']

private theorem filter_eq_none_iff {text : Option String} : text.filter (· != "") = none ↔ text.getD "" = "" := by
  cases text with
  | none => simp
  | some text => simp [Option.filter]

/-- A format is unbound only where the caller asks for the system's zone. -/
theorem asksSystemZone_of_zone_eq_none {s : Surroundings} {pattern zoneName : Option String} {f : DateFormat}
    (hf : DateFormat.lenient s pattern zoneName = .ok f) (hnone : f.zone = none) :
    AsksSystemZone pattern zoneName := by
  obtain ⟨hname, hpattern⟩ := DateFormat.of_zone_eq_none hf hnone
  refine ⟨filter_eq_none_iff.1 hname, ?_⟩
  have hdefault : isZonePattern defaultPattern = false := by decide
  cases pattern with
  | none =>
    rw [show (FormatSpec.of none zoneName).pattern = defaultPattern from rfl, hdefault] at hpattern
    cases hpattern
  | some text =>
    refine ⟨text, rfl, ?_⟩
    by_cases hempty : text = ""
    · rw [hempty, show (FormatSpec.of (some "") zoneName).pattern = defaultPattern from rfl, hdefault] at hpattern
      cases hpattern
    · have htext : (FormatSpec.of (some text) zoneName).pattern = text := by
        simp [FormatSpec.of, Option.filter, hempty]
      rw [htext] at hpattern
      unfold isZonePattern at hpattern
      simp only [Bool.and_eq_true, decide_eq_true_eq, List.all_eq_true, List.contains_iff_mem] at hpattern
      obtain ⟨⟨hleast, hmost⟩, hletters⟩ := hpattern
      refine ⟨?_, hletters⟩
      simp only [List.mem_cons, List.not_mem_nil, or_false]
      omega

section

variable {s s' : Surroundings} {pattern zoneName : Option String}

/-- The fields of a text depend on no setting. -/
private theorem fieldsOfText_congr (hdb : s.database = s'.database) (text : Option String) :
    fieldsOfText s text pattern = fieldsOfText s' text pattern := by
  unfold fieldsOfText
  cases text.filter (· != "") with
  | none => rfl
  | some text =>
    have hbind : DateFormat.strict s' pattern none =
        (DateFormat.strict s pattern none).map fun f => { f with locale := pinnedLocale s'.locale } := by
      unfold DateFormat.strict
      rw [← hdb]
      exact DateFormat.bind_congr (by rw [names_pinnedLocale, names_pinnedLocale])
    dsimp only
    rw [hbind]
    cases hf : DateFormat.strict s pattern none with
    | error e => rfl
    | ok f =>
      have hstrict : f.pattern.lenient = false := (DateFormat.of_bind hf).2.2.1
      have hread : f.pattern.read s.today text s.database = f.pattern.read s'.today text s'.database := by
        rw [← hdb]
        exact DatePattern.read_congr (fun hlenient => by rw [hstrict] at hlenient; cases hlenient) text s.database
      change (f.readFields s text >>= _) = (DateFormat.readFields { f with locale := pinnedLocale s'.locale } s' text >>= _)
      unfold DateFormat.readFields
      rw [hread]

private theorem readMillis_congr (hdb : s.database = s'.database) (hnames : Names.of s.locale = .of s'.locale)
    (htoday : ∀ ts, tokens (FormatSpec.of pattern zoneName).pattern.toList = .ok ts → HasShortYear ts →
      s.today.year = s'.today.year) (text : Option String) :
    readMillis s text pattern zoneName = readMillis s' text pattern zoneName := by
  unfold readMillis
  cases text with
  | none => rfl
  | some text =>
    refine DateFormat.bind_lenient_congr hdb hnames fun f hf => ?_
    rw [DateFormat.readInstant_congr hdb hf (fun _ => htoday _ (DateFormat.of_bind hf).1) text]
    rfl

private theorem writeMillis_congr (hdb : s.database = s'.database) (hnames : Names.of s.locale = .of s'.locale)
    (hasks : ¬AsksSystemZone pattern zoneName) (millis : Int) :
    writeMillis s millis pattern zoneName = writeMillis s' millis pattern zoneName := by
  refine DateFormat.bind_lenient_congr hdb hnames fun f hf => ?_
  cases hzone : f.zone with
  | none => exact absurd (asksSystemZone_of_zone_eq_none hf hzone) hasks
  | some zone =>
    unfold DateFormat.write DateFormat.shownZone
    rw [hzone]

private theorem addToTimestamp_congr {amountUnit : Option String} (hdb : s.database = s'.database)
    (h : CalendarUnit.named? amountUnit = none ∨ zoneName.getD "" ≠ "") (model : CalendarModel) (time amount : Int)
    (unit : Option String) :
    addToTimestamp s model time unit amount amountUnit zoneName =
      addToTimestamp s' model time unit amount amountUnit zoneName := by
  unfold addToTimestamp
  cases hunit : CalendarUnit.named? amountUnit with
  | none => rfl
  | some u =>
    rcases h with h | h
    · rw [hunit] at h
      cases h
    · have hzone : zoneOrSystem s zoneName = zoneOrSystem s' zoneName := by
        unfold zoneOrSystem
        cases hname : zoneName.filter (· != "") with
        | none => exact absurd (filter_eq_none_iff.1 hname) h
        | some name => exact congrArg (fun db => resolveZone name db) hdb
      dsimp only
      rw [hzone]

end

/-- Two surroundings with one database of regions give an operation the same outcome where they agree on what it uses. The
fields of a text use nothing of them. The instant of a text uses the names of the locale, and the year of today for a year of
two digits. The text of an instant uses these names, and the zone where a caller asks for it. A sum uses the zone, if months
or years are added and no zone is named. -/
theorem outcomes_eq_of_surroundings (s s' : Surroundings) (hdb : s.database = s'.database) (pattern zoneName : Option String) :
    (∀ text, fieldsOfText s text pattern = fieldsOfText s' text pattern) ∧
    (Names.of s.locale = .of s'.locale →
      (∀ ts, tokens (FormatSpec.of pattern zoneName).pattern.toList = .ok ts → HasShortYear ts →
        s.today.year = s'.today.year) →
      ∀ text, readMillis s text pattern zoneName = readMillis s' text pattern zoneName) ∧
    (Names.of s.locale = .of s'.locale → ¬AsksSystemZone pattern zoneName →
      ∀ millis, writeMillis s millis pattern zoneName = writeMillis s' millis pattern zoneName) ∧
    ∀ amountUnit, CalendarUnit.named? amountUnit = none ∨ zoneName.getD "" ≠ "" →
      ∀ model time unit amount, addToTimestamp s model time unit amount amountUnit zoneName =
        addToTimestamp s' model time unit amount amountUnit zoneName :=
  ⟨fieldsOfText_congr hdb, readMillis_congr hdb, writeMillis_congr hdb,
    fun _ h model time unit amount => addToTimestamp_congr hdb h model time amount unit⟩

/-- A system in France, set to the time of New York. -/
private def franceSystem : Surroundings :=
  ⟨[some "fr_FR.UTF-8"], some "America/New_York", .absent, none, ⟨2021, 1, 1⟩, .listed⟩

/-- A system in Japan, years before, with no locale, and with the same regions. -/
private def japanSystem : Surroundings :=
  ⟨[none, none, some "C"], none, .text "Asia/Tokyo", none, ⟨1990, 5, 7⟩, .listed⟩

/-- Two systems that differ in all their settings, but not in the names of their locales. -/
theorem outcomes_eq_of_surroundings_france_japan :
    Names.of franceSystem.locale = .of japanSystem.locale ∧ franceSystem.zone.toOption ≠ japanSystem.zone.toOption ∧
      (∀ text, readMillis franceSystem text (some "yyyy z") none = readMillis japanSystem text (some "yyyy z") none) ∧
      (∀ millis, writeMillis franceSystem millis (some "yyyy z") none =
        writeMillis japanSystem millis (some "yyyy z") none) ∧
      ∀ model time unit amount, addToTimestamp franceSystem model time unit amount (some "month") (some "Asia/Tokyo") =
        addToTimestamp japanSystem model time unit amount (some "month") (some "Asia/Tokyo") := by
  have hnames : Names.of franceSystem.locale = .of japanSystem.locale := by decide +kernel
  have htokens : tokens (FormatSpec.of (some "yyyy z") none).pattern.toList =
      .ok [.field .year 4, .literal [' '], .field .zoneName 1] :=
    eq_ok_of_toOption (by decide +kernel)
  obtain ⟨-, hread, hwrite, -⟩ := outcomes_eq_of_surroundings franceSystem japanSystem rfl (some "yyyy z") none
  obtain ⟨-, -, -, hadd⟩ := outcomes_eq_of_surroundings franceSystem japanSystem rfl none (some "Asia/Tokyo")
  refine ⟨hnames, by decide +kernel, hread hnames fun ts hts => ?_, hwrite hnames ?_,
    hadd (some "month") (.inr (by decide))⟩
  · rw [htokens] at hts
    obtain rfl := Except.ok.inj hts
    rintro ⟨letter, -, hmem⟩
    simp at hmem
  · rintro ⟨-, text, htext, -, hletters⟩
    obtain rfl := Option.some.inj htext
    exact absurd (hletters 'y' (by decide)) (by decide)

end CivilTime
