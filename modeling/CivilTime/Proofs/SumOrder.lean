import CivilTime.Proofs.SumRange

/-!
# The order of sums

A sum of more months lies later. Two dates that are reached by different numbers of months are at least 28 days apart
(`Date.toDay_monthsAfter_lt`), and a zone that is never a day or more off UTC reads no local time with more, so the instants come in
the order of the local times, whatever lies between them: a day that is brought down, another offset, or a gap. The years reached
come in this order as well, so there is a sum for every amount between two that have one (`addToTimestamp_strictMono`).
-/

namespace CivilTime

theorem CalendarUnit.months_pos (u : CalendarUnit) : 0 < u.months := by
  cases u <;> decide

/-- Local times that are two days or more apart are instants in their order. -/
theorem Moment.toMillis_firstPass_lt {zone : Zone} (hb : zone.Bounded) {t t' : LocalTime}
    (hlater : t.millis + 2 * millisPerDay ≤ t'.millis) : (firstPass zone t).toMillis < (firstPass zone t').toMillis := by
  have ho := @natAbs_offset_firstPass_lt zone t hb
  have ho' := @natAbs_offset_firstPass_lt zone t' hb
  unfold millisPerDay at hlater
  have hmillis : ∀ t : LocalTime, (firstPass zone t).toMillis = t.millis - 1000 * (firstPass zone t).offset := fun _ => rfl
  rw [hmillis, hmillis]
  omega

/-- Times of day on dates that are at least 28 days apart are instants in the order of the dates. -/
theorem Moment.toMillis_firstPass_onDate_lt {zone : Zone} (hb : zone.Bounded) (time : LocalTime) {d e : Date}
    (hdays : d.toDay + 28 ≤ e.toDay) :
    (firstPass zone (time.onDate d)).toMillis < (firstPass zone (time.onDate e)).toMillis := by
  refine toMillis_firstPass_lt hb ?_
  unfold LocalTime.onDate millisPerDay
  dsimp only
  omega

/-- Of two sums of months or years the one with the greater amount is later, and every amount between them has a sum, which
lies between them. -/
theorem addToTimestamp_strictMono {s : Surroundings} {amountUnit zoneName unit : Option String} {u : CalendarUnit}
    {time amount₁ amount₂ sum₁ sum₂ : Int} (hdb : s.database.IsBounded) (hu : CalendarUnit.named? amountUnit = some u)
    (hlt : amount₁ < amount₂)
    (h₁ : addToTimestamp s .gregorian time unit amount₁ amountUnit zoneName = .ok sum₁)
    (h₂ : addToTimestamp s .gregorian time unit amount₂ amountUnit zoneName = .ok sum₂) :
    sum₁ < sum₂ ∧ ∀ amount, amount₁ < amount → amount < amount₂ →
      ∃ sum, addToTimestamp s .gregorian time unit amount amountUnit zoneName = .ok sum ∧ sum₁ < sum ∧ sum < sum₂ := by
  obtain ⟨zone, start, hz, hstart, hyear₁, rfl⟩ := (addToTimestamp_eq_ok_iff hu).1 h₁
  obtain ⟨zone', start', hz', hstart', hyear₂, rfl⟩ := (addToTimestamp_eq_ok_iff hu).1 h₂
  obtain rfl : zone = zone' := Except.ok.inj (hz.symm.trans hz')
  obtain rfl : start = start' := Option.some.inj (hstart.symm.trans hstart')
  obtain ⟨name, hname⟩ := exists_resolveZone?_of_zoneOrSystem hz
  have hmonths : ∀ {m n : Int}, m < n → u.months * m < u.months * n := fun h => Int.mul_lt_mul_of_pos_left h u.months_pos
  have horder : ∀ {m n : Int}, m < n →
      (Moment.firstPass zone (start.time.onDate (start.time.date.monthsAfter (u.months * m)))).toMillis <
        (Moment.firstPass zone (start.time.onDate (start.time.date.monthsAfter (u.months * n)))).toMillis := fun h =>
    Moment.toMillis_firstPass_onDate_lt (bounded_of_resolveZone? hdb hname) start.time
      (start.time.date.toDay_monthsAfter_lt (hmonths h))
  refine ⟨horder hlt, fun amount hlow hhigh => ⟨_, ?_, horder hlow, horder hhigh⟩⟩
  refine (addToTimestamp_eq_ok_iff hu).2 ⟨zone, start, hz, hstart, ?_, rfl⟩
  -- the year reached lies between two supported years
  have hfrom := start.time.date.year_monthsAfter_mono (Int.le_of_lt (hmonths hlow))
  have hto := start.time.date.year_monthsAfter_mono (Int.le_of_lt (hmonths hhigh))
  unfold supportedYear at hyear₁ hyear₂ ⊢
  simp only [Bool.and_eq_true, decide_eq_true_eq] at hyear₁ hyear₂ ⊢
  omega

/-- In Apia a month after noon of 30 November 2011 falls on a day that is left out, and lies between no month and two months. -/
theorem addToTimestamp_strictMono_apia :
    ∃ sum, addToTimestamp .bare .gregorian 1322690400000 none 1 (some "months")
        (some "Pacific/Apia") = .ok sum ∧ 1322690400000 < sum ∧ sum < 1327874400000 := by
  have hnone : addToTimestamp .bare .gregorian 1322690400000 none 0 (some "months")
      (some "Pacific/Apia") = .ok 1322690400000 :=
    eq_ok_of_toOption (by decide +kernel)
  have htwo : addToTimestamp .bare .gregorian 1322690400000 none 2 (some "months")
      (some "Pacific/Apia") = .ok 1327874400000 :=
    eq_ok_of_toOption (by decide +kernel)
  have hu : CalendarUnit.named? (some "months") = some .month := by decide +kernel
  exact (addToTimestamp_strictMono Database.isSound_listed.bounded hu (by decide) hnone htwo).2 1 (by decide) (by decide)

end CivilTime
