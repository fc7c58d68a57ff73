import CivilTime.Proofs.Addition
import CivilTime.Proofs.Outcome

/-!
# Sums in steps

Adding months in two steps ends in the month in which one step by their sum ends, but the day may be brought down in between.
In a zone that observes one offset at all times (`Zone.KeepsOffset`) nothing else is lost: the sum of the steps is earlier by the
days that the month in between is too short for, if the last month has them (`addToTimestamp_addToTimestamp`). So a step that is
taken back leads back exactly if the day exists in the month in between.
-/

namespace CivilTime

/-! ### One offset at all times -/

/-- The zone observes one offset at all times. -/
def Zone.KeepsOffset (z : Zone) (offset : Int) : Prop := ∀ o ∈ z.observances, o.offset = offset

theorem Zone.keepsOffset_fixed (offset : Int) (name : String) : (Zone.fixed offset name).KeepsOffset offset := by
  intro o ho
  rw [List.mem_singleton.1 ho]

namespace Zone.KeepsOffset

variable {zone : Zone} {offset : Int}

theorem toMillis_firstPass (hkeeps : zone.KeepsOffset offset) (time : LocalTime) :
    (Moment.firstPass zone time).toMillis = time.millis - 1000 * offset := by
  change time.millis - 1000 * (zone.atLocal false time.seconds).offset = _
  rw [hkeeps _ (zone.atLocal_mem false time.seconds)]

theorem time_of_ofMillis? (hkeeps : zone.KeepsOffset offset) {millis : Int} {m : Moment}
    (hm : Moment.ofMillis? millis zone = some m) : m.time = ⟨millis + 1000 * offset⟩ := by
  obtain ⟨-, rfl⟩ := Moment.ofMillis?_eq_some_iff.1 hm
  rw [hkeeps _ (zone.atUtc_mem _)]
  rfl

end Zone.KeepsOffset

/-! ### One time of day on several dates -/

namespace LocalTime

theorem onDate_onDate (t : LocalTime) (d e : Date) : (t.onDate d).onDate e = t.onDate e := by
  rw [onDate, milliOfDay_onDate]
  rfl

theorem onDate_date (t : LocalTime) : t.onDate t.date = t := by
  have h := t.day_milliOfDay
  unfold onDate date
  rw [Date.toDay_ofDay, h]

theorem millis_onDate (t : LocalTime) (d : Date) : (t.onDate d).millis = millisPerDay * d.toDay + t.milliOfDay := by
  unfold onDate
  rw [Int.mul_comm]

end LocalTime

/-! ### Two steps -/

section

variable {s : Surroundings} {zoneName unit unit' : Option String} {zone : Zone} {offset time a b m n : Int} {start : Moment}
  {uName vName : Option String} {u v : CalendarUnit}

/-- In a zone with one offset a sum is the time of day on the date reached. -/
private theorem addToTimestamp_iff_of_keepsOffset (hz : zoneOrSystem s zoneName = .ok zone)
    (hkeeps : zone.KeepsOffset offset) (hstart : Moment.ofMillis? time zone = some start)
    (hu : CalendarUnit.named? uName = some u) :
    addToTimestamp s .gregorian time unit m uName zoneName = .ok a ↔
      supportedYear (start.time.date.monthsAfter (u.months * m)).year = true ∧
        a = (start.time.onDate (start.time.date.monthsAfter (u.months * m))).millis - 1000 * offset := by
  rw [addToTimestamp_eq_ok_iff hu]
  constructor
  · rintro ⟨zone', start', hz', hstart', hyear, rfl⟩
    obtain rfl : zone = zone' := Except.ok.inj (hz.symm.trans hz')
    obtain rfl : start = start' := Option.some.inj (hstart.symm.trans hstart')
    exact ⟨hyear, hkeeps.toMillis_firstPass _⟩
  · rintro ⟨hyear, rfl⟩
    exact ⟨zone, start, hz, hstart, hyear, (hkeeps.toMillis_firstPass _).symm⟩

/-- The second of two steps starts from the date that the first one reached. -/
private theorem addToTimestamp_second_iff (hz : zoneOrSystem s zoneName = .ok zone) (hkeeps : zone.KeepsOffset offset)
    (hstart : Moment.ofMillis? time zone = some start) (hu : CalendarUnit.named? uName = some u)
    (hv : CalendarUnit.named? vName = some v) (ha : addToTimestamp s .gregorian time unit m uName zoneName = .ok a)
    (hb : addToTimestamp s .gregorian a unit' n vName zoneName = .ok b) :
    supportedYear (start.time.date.monthsAfter (u.months * m + v.months * n)).year = true ∧
      b = (start.time.onDate ((start.time.date.monthsAfter (u.months * m)).monthsAfter (v.months * n))).millis -
        1000 * offset := by
  obtain ⟨-, rfl⟩ := (addToTimestamp_iff_of_keepsOffset hz hkeeps hstart hu).1 ha
  obtain ⟨_, next, hz', hnext, -⟩ := (addToTimestamp_eq_ok_iff hv).1 hb
  obtain rfl := Except.ok.inj (hz.symm.trans hz')
  obtain ⟨-, -, hd, -⟩ := start.time.date_bounds
  have htime : next.time = start.time.onDate (start.time.date.monthsAfter (u.months * m)) := by
    rw [hkeeps.time_of_ofMillis? hnext, Int.sub_add_cancel]
  have hdate : next.time.date = start.time.date.monthsAfter (u.months * m) := by
    rw [htime, LocalTime.date_onDate _ (Date.ofDay_toDay_monthsAfter hd _)]
  obtain ⟨hyear, rfl⟩ := (addToTimestamp_iff_of_keepsOffset hz hkeeps hnext hv).1 hb
  rw [hdate] at hyear ⊢
  rw [htime, LocalTime.onDate_onDate]
  rw [Date.monthsAfter_monthsAfter] at hyear
  exact ⟨hyear, rfl⟩

/-- In a zone with one offset, adding months or years in two steps is adding their sum, less the days that the month in between
is too short for and the last month is not. None is lost up to the 28th of a month. Where the steps cancel, they lead back
exactly if the month in between has the day. -/
theorem addToTimestamp_addToTimestamp (hz : zoneOrSystem s zoneName = .ok zone) (hkeeps : zone.KeepsOffset offset)
    (hstart : Moment.ofMillis? time zone = some start) (hu : CalendarUnit.named? uName = some u)
    (hv : CalendarUnit.named? vName = some v) (ha : addToTimestamp s .gregorian time unit m uName zoneName = .ok a)
    (hb : addToTimestamp s .gregorian a unit' n vName zoneName = .ok b) :
    (∀ wName w k unit, CalendarUnit.named? wName = some w → w.months * k = u.months * m + v.months * n →
      ∃ c, addToTimestamp s .gregorian time unit k wName zoneName = .ok c ∧
        b = c - millisPerDay * max 0 (min start.time.date.day (start.time.date.lengthAfter (w.months * k)) -
          start.time.date.lengthAfter (u.months * m) : Int) ∧
        (start.time.date.day ≤ 28 → b = c)) ∧
    (u.months * m + v.months * n = 0 → (b = time ↔ start.time.date.day ≤ start.time.date.lengthAfter (u.months * m))) := by
  obtain ⟨hyear, hsecond⟩ := addToTimestamp_second_iff hz hkeeps hstart hu hv ha hb
  have hlost := start.time.date.toDay_monthsAfter_monthsAfter (u.months * m) (v.months * n)
  rw [LocalTime.millis_onDate, hlost] at hsecond
  unfold millisPerDay at hsecond ⊢
  constructor
  · intro wName w k unit hw hk
    have hlen := start.time.date.lengthAfter_bounds (u.months * m)
    refine ⟨(start.time.onDate (start.time.date.monthsAfter (w.months * k))).millis - 1000 * offset, ?_, ?_, ?_⟩
    · rw [addToTimestamp_iff_of_keepsOffset hz hkeeps hstart hw, hk]
      exact ⟨hyear, rfl⟩
    · rw [hk, hsecond, LocalTime.millis_onDate, millisPerDay]
      omega
    · intro h28
      rw [hk, hsecond, LocalTime.millis_onDate, millisPerDay]
      omega
  · intro hzero
    obtain ⟨hm, hm', -, hd⟩ := start.time.date_bounds
    have hback := Date.monthsAfter_zero hm hm' hd
    have hlen : start.time.date.lengthAfter 0 = monthLength start.time.date.year start.time.date.month := by
      unfold Date.lengthAfter
      rw [hback]
    have hmillis := congrArg LocalTime.millis start.time.onDate_date
    have htime := congrArg LocalTime.millis (hkeeps.time_of_ofMillis? hstart)
    rw [LocalTime.millis_onDate, millisPerDay] at hmillis
    rw [hzero, hback, hlen] at hsecond
    dsimp only at htime
    omega

end

/-- Five hours west of UTC, a month after noon of 31 January 2021 is 28 February; another month later it is three days before
the 31 March that lies two months after the start, and a month back it is not the start. -/
theorem addToTimestamp_addToTimestamp_january :
    (∃ c, addToTimestamp .bare .gregorian 1612112400000 none 2 (some "months")
        (some "-05:00") = .ok c ∧ 1616950800000 = c - 86400000 * 3) ∧
      addToTimestamp .bare .gregorian 1614531600000 none (-1) (some "months")
        (some "-05:00") = .ok 1611853200000 ∧ (1611853200000 : Int) ≠ 1612112400000 := by
  have hz : zoneOrSystem .bare (some "-05:00") = .ok (.fixed (-18000) "-05:00") :=
    eq_ok_of_toOption (by decide +kernel)
  have hstart : Moment.ofMillis? 1612112400000 (.fixed (-18000) "-05:00") =
      some (.firstPass (.fixed (-18000) "-05:00") (.of ⟨2021, 1, 31⟩ 12 0 0 0)) := by
    decide +kernel
  have hu : CalendarUnit.named? (some "months") = some .month := by decide +kernel
  have ha : addToTimestamp .bare .gregorian 1612112400000 none 1 (some "months")
      (some "-05:00") = .ok 1614531600000 :=
    eq_ok_of_toOption (by decide +kernel)
  have hb : addToTimestamp .bare .gregorian 1614531600000 none 1 (some "months")
      (some "-05:00") = .ok 1616950800000 :=
    eq_ok_of_toOption (by decide +kernel)
  have hback : addToTimestamp .bare .gregorian 1614531600000 none (-1) (some "months")
      (some "-05:00") = .ok 1611853200000 :=
    eq_ok_of_toOption (by decide +kernel)
  have hkeeps := Zone.keepsOffset_fixed (-18000) "-05:00"
  obtain ⟨c, hc, hlost, -⟩ := (addToTimestamp_addToTimestamp hz hkeeps hstart hu hu ha hb).1 (some "months") .month 2 none hu
    (by decide)
  have hlast : (1611853200000 : Int) = 1612112400000 ↔ _ :=
    (addToTimestamp_addToTimestamp hz hkeeps hstart hu hu ha hback).2 (by decide)
  exact ⟨⟨c, hc, hlost⟩, hback, fun h => absurd (hlast.1 h) (by decide +kernel)⟩

end CivilTime
