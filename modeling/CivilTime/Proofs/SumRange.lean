import CivilTime.Proofs.Addition
import CivilTime.Proofs.Dates
import CivilTime.Proofs.Outcome
import CivilTime.Proofs.Zone.LastYear

/-!
# The range of sums

A sum of months or years has a local time in the supported years, and the zone shows a time in these years at the sum, also
where the local time lies in a gap (`Moment.isSupported_localTime_firstPass`). The UTC time of the sum is not compared with
the supported years. So a sum can be shown again, and added to again, exactly where its UTC time lies in them, and it never
lies a day or more outside (`ofMillis?_addToTimestamp`).
-/

namespace CivilTime

/-! ### Local times -/

theorem Date.isValid_monthsAfter {d : Date} (hd : 1 ≤ d.day) {months : Int}
    (hyear : supportedYear (d.monthsAfter months).year = true) : (d.monthsAfter months).isValid = true := by
  have hclamped : d.monthsAfter months =
      (⟨(d.monthsAfter months).year, (d.monthsAfter months).month, d.day⟩ : Date).clamped := rfl
  rw [hclamped]
  exact isValid_clamped hyear (d.month_monthsAfter_bounds months) hd

theorem LocalTime.isSupported_onDate (t : LocalTime) {d : Date} (h : d.isValid = true) :
    (t.onDate d).isSupported = true := by
  obtain ⟨hlow, hhigh⟩ := Date.toDay_bounds h
  have htime := t.milliOfDay_lt
  unfold isSupported onDate millisPerDay
  simp only [Bool.and_eq_true, decide_eq_true_eq]
  omega

/-! ### First passes -/

namespace Moment

variable {zone : Zone} {time : LocalTime}

/-- The zone shows a time in the supported years at the instant of a local time in these years. -/
theorem isSupported_localTime_firstPass (h : zone.Separated) (hb : zone.Bounded) (hcalm : zone.IsCalmAtEnd)
    (htime : time.isSupported = true) : (zone.localTime (firstPass zone time).toMillis).isSupported = true := by
  have hmillis : (firstPass zone time).toMillis =
      time.millis - 1000 * (zone.atLocal false time.seconds).offset := rfl
  have hsec : (firstPass zone time).toMillis / 1000 = time.seconds - (zone.atLocal false time.seconds).offset := by
    rw [hmillis]
    unfold LocalTime.seconds
    omega
  have hend := Zone.newYear_end
  have hdiv : time.seconds = time.millis / 1000 := rfl
  unfold Zone.localTime LocalTime.plus
  rw [hsec, hmillis]
  unfold LocalTime.isSupported at htime ⊢
  simp only [Bool.and_eq_true, decide_eq_true_eq] at htime ⊢
  rcases h.atLocal_cases time.seconds with ⟨hl, -⟩ | ⟨u, hu, hbefore, o, ho, hoff⟩
  · rw [hl]
    dsimp only
    omega
  · -- in a gap the time is shown later by the length of the gap
    have hgap := hcalm.skips_lt hb hu (by omega)
    have hle := hu.1
    have hlt := hu.2
    unfold Zone.gap at hgap
    rw [ho, ← hbefore]
    dsimp only
    omega

theorem exists_ofMillis?_firstPass (h : zone.Separated) (hb : zone.Bounded) (hcalm : zone.IsCalmAtEnd)
    (htime : time.isSupported = true) :
    (∃ m, ofMillis? (firstPass zone time).toMillis zone = some m) ↔
      (⟨(firstPass zone time).toMillis⟩ : LocalTime).isSupported = true := by
  constructor
  · rintro ⟨m, hm⟩
    exact (ofMillis?_eq_some_iff.1 hm).1.1
  · intro hutc
    exact ⟨_, ofMillis?_eq_some_iff.2 ⟨⟨hutc, isSupported_localTime_firstPass h hb hcalm htime⟩, rfl⟩⟩

theorem natAbs_offset_firstPass_lt (hb : zone.Bounded) : (firstPass zone time).offset.natAbs < 86400 :=
  hb _ (zone.atLocal_mem false time.seconds)

end Moment

/-! ### Sums -/

variable {amountUnit zoneName : Option String} {u : CalendarUnit} {zone : Zone}

/-- A sum of months or years is shown again by its zone exactly where its UTC time lies in the supported years, and it lies less
than a day outside. Where there is no sum, the timestamp itself is not shown, or its local time is moved out of the supported
years; the failure tells the number, or cannot print it. -/
theorem ofMillis?_addToTimestamp (s : Surroundings) (hdb : s.database.IsSound) (hearly : s.database.EndsEarly)
    (time amount : Int) (unit : Option String)
    (hu : CalendarUnit.named? amountUnit = some u) (hz : zoneOrSystem s zoneName = .ok zone) :
    match addToTimestamp s .gregorian time unit amount amountUnit zoneName with
    | .ok sum =>
      ((∃ m, Moment.ofMillis? sum zone = some m) ↔ (⟨sum⟩ : LocalTime).isSupported = true) ∧
        -62135596800000 - millisPerDay < sum ∧ sum < 253402300800000 + millisPerDay
    | .error e =>
      (Moment.ofMillis? time zone = none ∧ e = .showing time (.unsupportedInstant time)) ∨
        ∃ start, Moment.ofMillis? time zone = some start ∧ e = .showing amount (.unsupportedShift amount u start) := by
  obtain ⟨name, hname⟩ := exists_resolveZone?_of_zoneOrSystem hz
  have hsep := separated_of_resolveZone? hdb.separated hname
  have hb := bounded_of_resolveZone? hdb.bounded hname
  have hcalm := isCalmAtEnd_of_resolveZone? hdb.separated hearly hname
  rw [addToTimestamp_of_named? hu hz]
  cases hstart : Moment.ofMillis? time zone with
  | none => exact .inl ⟨rfl, rfl⟩
  | some start =>
    dsimp only
    by_cases hyear : supportedYear (start.time.date.monthsAfter (u.months * amount)).year = true
    · rw [if_pos hyear]
      dsimp only
      obtain ⟨-, -, hday, -⟩ := start.time.date_bounds
      have htime := start.time.isSupported_onDate (Date.isValid_monthsAfter hday hyear)
      refine ⟨Moment.exists_ofMillis?_firstPass hsep hb hcalm htime, ?_⟩
      generalize start.time.onDate (start.time.date.monthsAfter (u.months * amount)) = reached at htime
      have hoff := @Moment.natAbs_offset_firstPass_lt zone reached hb
      have hsum : (Moment.firstPass zone reached).toMillis =
          reached.millis - 1000 * (Moment.firstPass zone reached).offset := rfl
      unfold LocalTime.isSupported at htime
      simp only [Bool.and_eq_true, decide_eq_true_eq] at htime
      unfold millisPerDay
      omega
    · rw [if_neg hyear]
      exact .inr ⟨start, rfl, rfl⟩

/-- A month after the last hour of January 2021 in New York can be shown. -/
theorem ofMillis?_addToTimestamp_newYork :
    ∃ m, Moment.ofMillis? 1614571200000 (.region "America/New_York" Database.newYork) = some m := by
  have hzone : zoneOrSystem .bare (some "America/New_York") =
      .ok (.region "America/New_York" Database.newYork) :=
    eq_ok_of_toOption (by decide +kernel)
  have hsum : addToTimestamp .bare .gregorian 1612152000000 none 1 (some "month")
      (some "America/New_York") = .ok 1614571200000 :=
    eq_ok_of_toOption (by decide +kernel)
  have h := @ofMillis?_addToTimestamp (some "month") (some "America/New_York") .month _
    .bare Database.isSound_listed Database.endsEarly_listed 1612152000000 1 none (by decide +kernel) hzone
  rw [hsum] at h
  exact h.1.2 (by decide)

/-- Five hours west of UTC, a year after eleven in the evening of 31 December 9998 the UTC year is 10000: the sum is found, and
cannot be shown. -/
theorem not_ofMillis?_addToTimestamp :
    zoneOrSystem .bare (some "-05:00") = .ok (.fixed (-18000) "-05:00") ∧
      CalendarUnit.named? (some "year") = some .year ∧
      addToTimestamp .bare .gregorian 253370779200000 none 1 (some "year")
        (some "-05:00") = .ok 253402315200000 ∧
      ¬∃ m, Moment.ofMillis? 253402315200000 (.fixed (-18000) "-05:00") = some m := by
  refine ⟨eq_ok_of_toOption (by decide +kernel), by decide +kernel, eq_ok_of_toOption (by decide +kernel), ?_⟩
  rintro ⟨m, hm⟩
  exact absurd (Moment.ofMillis?_eq_some_iff.1 hm).1.1 (by decide)

end CivilTime
