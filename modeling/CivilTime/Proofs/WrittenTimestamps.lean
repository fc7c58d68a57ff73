import CivilTime.Proofs.Conversion
import CivilTime.Proofs.RoundTrip
import CivilTime.Timestamp

/-!
# Texts of timestamps

A timestamp is written as the moment at which a zone shows it (`Zone.moment`). The zone is the one that the caller names;
without a name it is UTC, or for a pattern of zone letters alone the system's (`FormatSpec.shownZone`), which is known if its
file can be read (`Surroundings.exists_zone`). Whether the zone is known, whether the pattern is one, and whether the zone can
show the instant decide about the outcome, in this order (`Writes`). The instant is the one of the exact number of
milliseconds: where the conversion saturates, the number lies outside the supported years on the same side as the bound
(`Zone.CanShow.eq_of_nearest`).
-/

namespace CivilTime

/-! ### Shown instants -/

namespace Zone

/-- A zone can show an instant: its UTC date and its local date lie in the supported years. -/
def CanShow (z : Zone) (millis : Int) : Prop :=
  supportedYear (⟨millis⟩ : LocalTime).date.year = true ∧ supportedYear (z.localTime millis).date.year = true

/-- The moment at which a zone shows an instant. -/
def moment (z : Zone) (millis : Int) : Moment := ⟨z, z.localTime millis, (z.atUtc (millis / 1000)).2⟩

instance (z : Zone) (millis : Int) : Decidable (z.CanShow millis) :=
  inferInstanceAs (Decidable (_ ∧ _))

variable {z : Zone} {millis other : Int}

theorem toMillis_moment (h : z.Separated) (millis : Int) : (z.moment millis).toMillis = millis := by
  have hreads := h.coherent.reads (millis / 1000)
  have hseconds : (z.localTime millis).seconds = millis / 1000 + (z.atUtc (millis / 1000)).1.offset := LocalTime.seconds_plus _ _
  unfold Moment.toMillis Moment.offset Moment.observance moment
  dsimp only
  rw [hseconds, hreads]
  exact Int.add_sub_cancel _ _

/-- Numbers that the bounds make equal are the same where a zone can show one of them as an instant. -/
theorem CanShow.eq_of_nearest (h : z.CanShow millis)
    (heq : nearest int64Min int64Max millis = nearest int64Min int64Max other) : other = millis := by
  have hsupported := LocalTime.isSupported_iff.2 h.1
  unfold LocalTime.isSupported at hsupported
  simp only [Bool.and_eq_true, decide_eq_true_eq] at hsupported
  unfold nearest int64Min int64Max at heq
  omega

end Zone

theorem Moment.ofMillis_eq (millis : Int) (z : Zone) :
    ofMillis millis z =
      if z.CanShow millis then .ok (z.moment millis) else .error (.showing millis (.unsupportedInstant millis)) := by
  by_cases h : z.CanShow millis
  · have hm : ofMillis? millis z = some (z.moment millis) :=
      ofMillis?_eq_some_iff.2 ⟨⟨LocalTime.isSupported_iff.2 h.1, LocalTime.isSupported_iff.2 h.2⟩, rfl⟩
    unfold ofMillis
    rw [hm, if_pos h]
  · cases hm : ofMillis? millis z with
    | none =>
      unfold ofMillis
      rw [hm, if_neg h]
    | some m =>
      obtain ⟨⟨hutc, htime⟩, rfl⟩ := ofMillis?_eq_some_iff.1 hm
      exact absurd ⟨LocalTime.isSupported_iff.1 hutc, LocalTime.isSupported_iff.1 htime⟩ h

/-! ### Shown zones -/

/-- The zone in which the instants of a request are shown: the one that the caller names, or without a name UTC or, for a pattern of
zone letters alone, the system's. -/
def FormatSpec.shownZone (spec : FormatSpec) (s : Surroundings) : Except Error Zone :=
  match spec.zoneName with
  | some name => resolveZone name s.database
  | none => if isZonePattern spec.pattern then s.zone else .ok .utc

/-- The system's zone is known, if its file can be read. -/
theorem Surroundings.exists_zone (s : Surroundings) (hnames : s.database.KnowsOldNames) (hfile : s.zoneFile ≠ .undecodable) :
    ∃ z, resolveZone? s.zoneName s.database = some z ∧ s.zone = .ok z := by
  obtain ⟨z, hz⟩ := s.exists_resolveZone?_zoneName hnames
  refine ⟨z, hz, ?_⟩
  unfold zone
  rw [if_neg hfile, resolveZone_eq_ok_iff]
  exact hz

namespace FormatSpec

variable {spec : FormatSpec} {s : Surroundings} {zone : Zone}

/-- A request is shown in a zone, unless the caller names a zone that is not known, or asks for the system's where the file with its
name is no text. -/
theorem shownZone_cases (spec : FormatSpec) (s : Surroundings) (hnames : s.database.KnowsOldNames) :
    (∃ name, spec.zoneName = some name ∧ resolveZone? name s.database = none) ∨
      (spec.zoneName = none ∧ isZonePattern spec.pattern = true ∧ s.zoneFile = .undecodable) ∨
        ∃ zone, spec.shownZone s = .ok zone := by
  unfold shownZone
  cases hname : spec.zoneName with
  | some name =>
    cases hz : resolveZone? name s.database with
    | none => exact .inl ⟨name, rfl, hz⟩
    | some zone => exact .inr (.inr ⟨zone, resolveZone_eq_ok_iff.2 hz⟩)
  | none =>
    cases hpattern : isZonePattern spec.pattern with
    | false => exact .inr (.inr ⟨.utc, rfl⟩)
    | true =>
      by_cases hfile : s.zoneFile = .undecodable
      · exact .inr (.inl ⟨rfl, rfl, hfile⟩)
      · obtain ⟨zone, -, hzone⟩ := s.exists_zone hnames hfile
        exact .inr (.inr ⟨zone, hzone⟩)

theorem exists_resolveZone?_of_shownZone (h : spec.shownZone s = .ok zone) : ∃ name, resolveZone? name s.database = some zone := by
  unfold shownZone at h
  split at h
  · exact ⟨_, resolveZone_eq_ok_iff.1 h⟩
  · split at h
    · exact Surroundings.exists_resolveZone?_of_zone h
    · obtain rfl := Except.ok.inj h
      exact ⟨"UTC", resolveZone?_utc _⟩

end FormatSpec

/-- A format shows instants in the zone of its request. -/
theorem DateFormat.shownZone_of_bind {spec : FormatSpec} {s : Surroundings} {locale : String} {lenient : Bool} {f : DateFormat}
    (h : bind spec locale lenient s.database = .ok f) : f.shownZone s = spec.shownZone s := by
  obtain ⟨-, -, -, hbound⟩ := of_bind h
  unfold FormatSpec.boundZone at hbound
  unfold shownZone FormatSpec.shownZone
  cases hname : spec.zoneName with
  | some name =>
    rw [hname] at hbound
    dsimp only at hbound ⊢
    cases hz : resolveZone name s.database with
    | error e =>
      rw [hz] at hbound
      cases hbound
    | ok zone =>
      rw [hz] at hbound
      rw [← Except.ok.inj hbound]
  | none =>
    rw [hname] at hbound
    rw [← Except.ok.inj hbound]
    cases isZonePattern spec.pattern <;> rfl

/-! ### Outcomes -/

/-- What comes of writing an instant for a request, where errors report the instant as some number of milliseconds: a zone that the
caller names must be known, then the pattern, then the file that names the system's zone must be text if that zone is asked for, and
then the zone must be able to show the instant. -/
inductive Writes (s : Surroundings) (spec : FormatSpec) (millis reported : Int) : Except Error String → Prop where
  | unknownTimezone {name : String} (hname : spec.zoneName = some name) (hzone : resolveZone? name s.database = none) :
      Writes s spec millis reported (.error (.unknownTimezone (regionName name)))
  | invalidPattern {flaw : PatternFlaw} (hzone : ∀ name ∈ spec.zoneName, (resolveZone? name s.database).isSome = true)
      (hflaw : tokens spec.pattern.toList = .error flaw) :
      Writes s spec millis reported (.error (.invalidPattern spec.pattern flaw))
  | undecodableZoneFile {ts : List Token} (hname : spec.zoneName = none) (hpattern : isZonePattern spec.pattern = true)
      (htokens : tokens spec.pattern.toList = .ok ts) (hfile : s.zoneFile = .undecodable) :
      Writes s spec millis reported (.error (.unconverted .zoneFile))
  | unsupportedInstant {zone : Zone} {ts : List Token} (hzone : spec.shownZone s = .ok zone)
      (htokens : tokens spec.pattern.toList = .ok ts) (hcan : ¬zone.CanShow millis) :
      Writes s spec millis reported (.error (.showing reported (.unsupportedInstant reported)))
  | written {zone : Zone} {ts : List Token} (hzone : spec.shownZone s = .ok zone)
      (htokens : tokens spec.pattern.toList = .ok ts) (hcan : zone.CanShow millis) :
      Writes s spec millis reported
        (.ok (DatePattern.write ⟨spec.pattern, ts, .of s.locale, true⟩ (zone.moment millis)))

section

variable {s : Surroundings} {spec : FormatSpec} {millis reported : Int} {outcome : Except Error String}

/-- A zone that is shown is known, if it is named. -/
private theorem isSome_resolveZone?_of_shownZone {zone : Zone} (h : spec.shownZone s = .ok zone) :
    ∀ name ∈ spec.zoneName, (resolveZone? name s.database).isSome = true := by
  intro name hname
  unfold FormatSpec.shownZone at h
  rw [Option.mem_def.1 hname] at h
  rw [resolveZone_eq_ok_iff.1 h]
  rfl

theorem exists_writes (s : Surroundings) (hnames : s.database.KnowsOldNames) (spec : FormatSpec) (millis reported : Int) :
    ∃ outcome, Writes s spec millis reported outcome := by
  rcases spec.shownZone_cases s hnames with ⟨name, hname, hunknown⟩ | ⟨hname, hpattern, hfile⟩ | ⟨zone, hzone⟩
  · exact ⟨_, .unknownTimezone hname hunknown⟩
  · cases htokens : tokens spec.pattern.toList with
    | error flaw => exact ⟨_, .invalidPattern (by simp [hname]) htokens⟩
    | ok ts => exact ⟨_, .undecodableZoneFile hname hpattern htokens hfile⟩
  · cases htokens : tokens spec.pattern.toList with
    | error flaw => exact ⟨_, .invalidPattern (isSome_resolveZone?_of_shownZone hzone) htokens⟩
    | ok ts =>
      by_cases hcan : zone.CanShow millis
      · exact ⟨_, .written hzone htokens hcan⟩
      · exact ⟨_, .unsupportedInstant hzone htokens hcan⟩

/-- A request binds a format, if a zone that it names is known. -/
private theorem exists_boundZone (hknown : ∀ name ∈ spec.zoneName, (resolveZone? name s.database).isSome = true) :
    ∃ bound, spec.boundZone s.database = .ok bound := by
  unfold FormatSpec.boundZone
  cases hname : spec.zoneName with
  | none => exact ⟨_, rfl⟩
  | some name =>
    obtain ⟨zone, hzone⟩ := Option.isSome_iff_exists.1 (hknown name hname)
    dsimp only
    rw [resolveZone_eq_ok_iff.2 hzone]
    exact ⟨_, rfl⟩

private theorem exists_bind_of_tokens {ts : List Token} (htokens : tokens spec.pattern.toList = .ok ts)
    (hknown : ∀ name ∈ spec.zoneName, (resolveZone? name s.database).isSome = true) :
    ∃ f, DateFormat.bind spec s.locale true s.database = .ok f ∧ f.pattern = ⟨spec.pattern, ts, .of s.locale, true⟩ := by
  obtain ⟨bound, hbound⟩ := exists_boundZone hknown
  exact ⟨_, DateFormat.bind_eq_ok_iff_exists.2 ⟨ts, bound, htokens, hbound, rfl⟩, rfl⟩

/-- A format of a known zone and pattern writes the moment of the instant, if the zone can show it. -/
private theorem bind_write_of_tokens {zone : Zone} {ts : List Token} (hzone : spec.shownZone s = .ok zone)
    (htokens : tokens spec.pattern.toList = .ok ts) (millis : Int) :
    (DateFormat.bind spec s.locale true s.database >>= fun f => f.write s millis) =
      if zone.CanShow millis then .ok (DatePattern.write ⟨spec.pattern, ts, .of s.locale, true⟩ (zone.moment millis))
      else .error (.showing millis (.unsupportedInstant millis)) := by
  obtain ⟨f, hf, hpattern⟩ := exists_bind_of_tokens htokens (isSome_resolveZone?_of_shownZone hzone)
  have hshown := DateFormat.shownZone_of_bind hf
  rw [hf]
  change f.write s millis = _
  unfold DateFormat.write
  rw [hshown, hzone, hpattern]
  change (Moment.ofMillis millis zone >>= _) = _
  rw [Moment.ofMillis_eq]
  split <;> rfl

/-- Writing has the outcome that is settled by the instant, also where another number with the same bounds is reported for it. -/
theorem Writes.eq (h : Writes s spec millis reported outcome)
    (hnearest : nearest int64Min int64Max millis = nearest int64Min int64Max reported) :
    (DateFormat.bind spec s.locale true s.database >>= fun f => f.write s reported) = outcome := by
  cases h with
  | unknownTimezone hname hzone =>
    unfold DateFormat.bind FormatSpec.boundZone
    rw [hname]
    dsimp only [resolveZone]
    rw [hzone]
    rfl
  | invalidPattern hzone hflaw =>
    obtain ⟨bound, hbound⟩ := exists_boundZone hzone
    unfold DateFormat.bind DatePattern.of
    rw [hbound, hflaw]
    rfl
  | undecodableZoneFile hname hpattern htokens hfile =>
    obtain ⟨f, hf, -⟩ := exists_bind_of_tokens (s := s) htokens (by simp [hname])
    have hshown := DateFormat.shownZone_of_bind hf
    unfold FormatSpec.shownZone Surroundings.zone at hshown
    rw [hname, hpattern, hfile] at hshown
    rw [hf]
    change f.write s reported = _
    unfold DateFormat.write
    rw [hshown]
    rfl
  | unsupportedInstant hzone htokens hcan =>
    rw [bind_write_of_tokens hzone htokens, if_neg]
    intro hreported
    exact hcan ((hreported.eq_of_nearest hnearest.symm) ▸ hreported)
  | written hzone htokens hcan =>
    obtain rfl := hcan.eq_of_nearest hnearest
    rw [bind_write_of_tokens hzone htokens, if_pos hcan]

end

/-- Writing a timestamp fails exactly where the zone that is named is not known, or else the pattern is not, or else the
system's zone is asked for and its file is no text, or else the exact instant, by its UTC date or its local date, lies outside
the supported years; otherwise the text shows the moment of exactly that instant. The name of the system's zone always stands
for a zone. -/
theorem writeTimestamp_eq_iff (s : Surroundings) (hdb : s.database.IsSeparated) (hnames : s.database.KnowsOldNames) (time : Int)
    (unit pattern zoneName : Option String) :
    (∀ outcome, writeTimestamp s time unit pattern zoneName = outcome ↔
      Writes s (.of pattern zoneName) (time * (DurationUnit.named unit).millis) (durationMillis time (.named unit)) outcome) ∧
    (∀ zone, (FormatSpec.of pattern zoneName).shownZone s = .ok zone → ∀ millis, (zone.moment millis).toMillis = millis) ∧
    (s.zoneFile ≠ .undecodable → ∃ zone, resolveZone? s.zoneName s.database = some zone ∧ s.zone = .ok zone) := by
  have hnearest : nearest int64Min int64Max (time * (DurationUnit.named unit).millis) =
      nearest int64Min int64Max (durationMillis time (.named unit)) := by
    rw [← exactDuration_millisecond, ← nearest_convertDuration]
    rfl
  refine ⟨fun outcome => ⟨?_, fun h => h.eq hnearest⟩, fun zone hzone millis => ?_, s.exists_zone hnames⟩
  · rintro rfl
    obtain ⟨outcome, h⟩ := exists_writes s hnames (.of pattern zoneName) (time * (DurationUnit.named unit).millis)
      (durationMillis time (.named unit))
    have heq : writeTimestamp s time unit pattern zoneName = outcome := h.eq hnearest
    rwa [heq]
  · obtain ⟨name, hname⟩ := FormatSpec.exists_resolveZone?_of_shownZone hzone
    exact Zone.toMillis_moment (separated_of_resolveZone? hdb hname) millis

/-- The second half past one on 7 November 2021 in New York, counted in seconds, and a number of days that saturates. -/
theorem writeTimestamp_eq_iff_newYork :
    writeTimestamp .bare 1636266600 (some "s") (some "HH:mm XXX") (some "America/New_York") =
        .ok "01:30 -05:00" ∧
      ((Zone.region "America/New_York" Database.newYork).moment 1636266600000).toMillis = 1636266600000 ∧
      writeTimestamp .bare 106751991168 (some "d") none none =
        .error (.showing 9223372036854775807 (.unsupportedInstant 9223372036854775807)) := by
  have hzone : (FormatSpec.of (some "HH:mm XXX") (some "America/New_York")).shownZone .bare =
      .ok (.region "America/New_York" Database.newYork) :=
    eq_ok_of_toOption (by decide +kernel)
  have hutc : (FormatSpec.of none none).shownZone .bare = .ok .utc := eq_ok_of_toOption (by decide +kernel)
  have htokens : tokens (FormatSpec.of (some "HH:mm XXX") (some "America/New_York")).pattern.toList =
      .ok [.field .hour 2, .literal [':'], .field .minute 2, .literal [' '], .field .isoOffset 3] :=
    eq_ok_of_toOption (by decide +kernel)
  have hdefault : tokens (FormatSpec.of none none).pattern.toList =
      .ok [.field .year 4, .literal ['-'], .field .month 2, .literal ['-'], .field .day 2, .literal [' '], .field .hour 2,
        .literal [':'], .field .minute 2, .literal [':'], .field .second 2] :=
    eq_ok_of_toOption (by decide +kernel)
  have htext : DatePattern.write ⟨(FormatSpec.of (some "HH:mm XXX") (some "America/New_York")).pattern,
      [.field .hour 2, .literal [':'], .field .minute 2, .literal [' '], .field .isoOffset 3],
      .of (Surroundings.locale .bare), true⟩
      ((Zone.region "America/New_York" Database.newYork).moment (1636266600 * (DurationUnit.named (some "s")).millis)) =
        "01:30 -05:00" := by
    decide +kernel
  have hreported : durationMillis 106751991168 (.named (some "d")) = 9223372036854775807 := by decide +kernel
  obtain ⟨hseconds, hmillis, -⟩ := writeTimestamp_eq_iff .bare Database.isSound_listed.separated
    Database.knowsOldNames_listed 1636266600 (some "s") (some "HH:mm XXX") (some "America/New_York")
  obtain ⟨hdays, -, -⟩ := writeTimestamp_eq_iff .bare Database.isSound_listed.separated
    Database.knowsOldNames_listed 106751991168 (some "d") none none
  refine ⟨?_, hmillis _ hzone _, ?_⟩
  · rw [← htext]
    exact (hseconds _).2 (.written hzone htokens (by decide +kernel))
  · rw [← hreported]
    exact (hdays _).2 (.unsupportedInstant hutc hdefault (by decide +kernel))

/-- A number of milliseconds with more than 4300 digits cannot be shown, and the failure that tells this cannot be printed.
Where the file that names the system's zone is no text, that zone is not known. -/
theorem not_writeTimestamp_eq_iff :
    (¬∀ time : Int, ¬Zone.utc.CanShow time →
      ∃ millis, writeTimestamp .bare time (some "ms") (some "yyyy") (some "UTC") = .error (.unsupportedInstant millis)) ∧
    writeTimestamp { Surroundings.bare with zoneFile := .undecodable } 0 (some "ms") (some "z") none =
      .error (.unconverted .zoneFile) := by
  refine ⟨fun h => ?_, eq_error_of_failure? (by decide +kernel)⟩
  obtain ⟨time, hfar, hdigits⟩ := exists_lt_digitCount
  have hcan : ¬Zone.utc.CanShow time := by
    intro hshown
    have hsupported := LocalTime.isSupported_iff.2 hshown.1
    unfold LocalTime.isSupported at hsupported
    simp only [Bool.and_eq_true, decide_eq_true_eq] at hsupported
    omega
  have hzone : (FormatSpec.of (some "yyyy") (some "UTC")).shownZone .bare = .ok .utc := eq_ok_of_toOption (by decide +kernel)
  have htokens : tokens (FormatSpec.of (some "yyyy") (some "UTC")).pattern.toList = .ok [.field .year 4] :=
    eq_ok_of_toOption (by decide +kernel)
  have hmillis : durationMillis time (.named (some "ms")) = time := by
    rw [show DurationUnit.named (some "ms") = .millisecond by decide +kernel]
    rfl
  have hwrite : writeTimestamp .bare time (some "ms") (some "yyyy") (some "UTC") = _ := bind_write_of_tokens hzone htokens _
  obtain ⟨millis, hreported⟩ := h time hcan
  rw [hreported, hmillis, if_neg hcan] at hwrite
  unfold Error.showing at hwrite
  rw [if_pos hdigits] at hwrite
  cases hwrite

end CivilTime
