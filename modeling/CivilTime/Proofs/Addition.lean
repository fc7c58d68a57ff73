import CivilTime.Addition
import CivilTime.Proofs.Instants
import CivilTime.Proofs.Months
import CivilTime.Proofs.Outcome

/-!
# Adding months and years

Adding calendar units to a timestamp is counting months from its local date (`Date.monthsAfter`): the sum is the instant
of the date reached at the same time of day, read with the offset before a change that repeats or skips that local time,
and there is one exactly where the year reached is supported (`addToTimestamp_calendar`). Where there is none the failure
tells the amount, unless that number is too long to be printed.
-/

namespace CivilTime

/-- The number of months of a calendar unit. -/
def CalendarUnit.months : CalendarUnit → Int
  | .month => 1
  | .year => 12

theorem LocalTime.date_onDate (t : LocalTime) {d : Date} (h : Date.ofDay d.toDay = d) : (t.onDate d).date = d := by
  unfold date
  rw [day_onDate, h]

/-- The calendar of months and years moves a local time to another date, at the same time of day. -/
theorem CalendarModel.gregorian_shift (unit : CalendarUnit) (time : LocalTime) (amount : Int) :
    gregorian.shift unit time amount =
      if supportedYear (time.date.monthsAfter (unit.months * amount)).year then
        some (time.onDate (time.date.monthsAfter (unit.months * amount)))
      else none := by
  obtain ⟨hm, hm', -, -⟩ := time.date_bounds
  cases unit with
  | month =>
    have e : gregorian.shift .month time amount = (time.date.addMonths amount).map time.onDate := rfl
    have hone : CalendarUnit.month.months * amount = amount := Int.one_mul amount
    rw [e, hone, Date.addMonths_eq hm hm']
    split <;> rfl
  | year =>
    have e : gregorian.shift .year time amount = (time.date.addYears amount).map time.onDate := rfl
    have htwelve : CalendarUnit.year.months * amount = 12 * amount := rfl
    rw [e, htwelve, Date.addYears_eq hm hm']
    split <;> rfl

/-- The zone of a sum can be named. -/
theorem exists_resolveZone?_of_zoneOrSystem {s : Surroundings} {zoneName : Option String} {zone : Zone}
    (h : zoneOrSystem s zoneName = .ok zone) : ∃ name, resolveZone? name s.database = some zone := by
  unfold zoneOrSystem at h
  split at h
  · exact ⟨_, resolveZone_eq_ok_iff.1 h⟩
  · exact Surroundings.exists_resolveZone?_of_zone h

theorem separated_of_zoneOrSystem {s : Surroundings} (hdb : s.database.IsSeparated) {zoneName : Option String} {zone : Zone}
    (h : zoneOrSystem s zoneName = .ok zone) : zone.Separated := by
  obtain ⟨name, hname⟩ := exists_resolveZone?_of_zoneOrSystem h
  exact separated_of_resolveZone? hdb hname

variable {s : Surroundings} {amountUnit zoneName : Option String} {u : CalendarUnit} {zone : Zone}

theorem addToTimestamp_of_named? (hu : CalendarUnit.named? amountUnit = some u)
    (hz : zoneOrSystem s zoneName = .ok zone) (time amount : Int) (unit : Option String) :
    addToTimestamp s .gregorian time unit amount amountUnit zoneName =
      match Moment.ofMillis? time zone with
      | none => .error (.showing time (.unsupportedInstant time))
      | some start =>
        if supportedYear (start.time.date.monthsAfter (u.months * amount)).year then
          .ok (Moment.firstPass zone
            (start.time.onDate (start.time.date.monthsAfter (u.months * amount)))).toMillis
        else .error (.showing amount (.unsupportedShift amount u start)) := by
  have e : addToTimestamp s .gregorian time unit amount amountUnit zoneName =
      addCalendar .gregorian zone time amount u := by
    unfold addToTimestamp
    rw [hu]
    dsimp only
    rw [hz]
    rfl
  rw [e]
  unfold addCalendar Moment.ofMillis
  cases Moment.ofMillis? time zone with
  | none => rfl
  | some start =>
    have hshift := CalendarModel.gregorian_shift u start.time amount
    dsimp only [bind, Except.bind]
    by_cases hyear : supportedYear (start.time.date.monthsAfter (u.months * amount)).year = true
    · rw [if_pos hyear] at hshift ⊢
      rw [hshift]
      rfl
    · rw [if_neg hyear] at hshift ⊢
      rw [hshift]

/-- There is a sum of calendar units where the zone is known and shows the timestamp, and the year reached is supported. -/
theorem addToTimestamp_eq_ok_iff (hu : CalendarUnit.named? amountUnit = some u) {time amount sum : Int}
    {unit : Option String} :
    addToTimestamp s .gregorian time unit amount amountUnit zoneName = .ok sum ↔
      ∃ zone start, zoneOrSystem s zoneName = .ok zone ∧ Moment.ofMillis? time zone = some start ∧
        supportedYear (start.time.date.monthsAfter (u.months * amount)).year = true ∧
        sum = (Moment.firstPass zone
          (start.time.onDate (start.time.date.monthsAfter (u.months * amount)))).toMillis := by
  constructor
  · intro h
    cases hz : zoneOrSystem s zoneName with
    | error e =>
      unfold addToTimestamp at h
      rw [hu] at h
      dsimp only at h
      rw [hz] at h
      cases h
    | ok zone =>
      rw [addToTimestamp_of_named? hu hz] at h
      split at h
      · cases h
      · rename_i start hstart
        split at h
        · rename_i hyear
          exact ⟨zone, start, rfl, hstart, hyear, (Except.ok.inj h).symm⟩
        · cases h
  · rintro ⟨zone, start, hz, hstart, hyear, rfl⟩
    rw [addToTimestamp_of_named? hu hz, hstart]
    exact if_pos hyear

/-- Years are twelve months each. -/
private theorem addToTimestamp_years {years months : Option String} (hy : CalendarUnit.named? years = some .year)
    (hm : CalendarUnit.named? months = some .month) (time amount : Int) (unit : Option String) :
    (addToTimestamp s .gregorian time unit amount years zoneName).toOption =
      (addToTimestamp s .gregorian time unit (12 * amount) months zoneName).toOption := by
  cases hz : zoneOrSystem s zoneName with
  | error e =>
    unfold addToTimestamp
    rw [hy, hm]
    dsimp only
    rw [hz]
    rfl
  | ok zone =>
    have htwelve : CalendarUnit.year.months * amount = CalendarUnit.month.months * (12 * amount) :=
      (Int.one_mul _).symm
    rw [addToTimestamp_of_named? hy hz, addToTimestamp_of_named? hm hz, htwelve]
    cases Moment.ofMillis? time zone with
    | none => rfl
    | some start =>
      dsimp only
      split <;> rfl

/-- A sum with calendar units fails where the timestamp has no local time or the year reached is not supported, with the
failure that tells the number, or that cannot print it. Otherwise it is the instant of the date reached, at the same time of
day; and a year is the same as twelve months. -/
theorem addToTimestamp_calendar (s : Surroundings) (hdb : s.database.IsSeparated) (time amount : Int)
    (unit zoneName : Option String) :
    (∀ amountUnit u zone, CalendarUnit.named? amountUnit = some u → zoneOrSystem s zoneName = .ok zone →
      match Moment.ofMillis? time zone with
      | none =>
        addToTimestamp s .gregorian time unit amount amountUnit zoneName =
          .error (.showing time (.unsupportedInstant time))
      | some start =>
        if supportedYear (start.time.date.monthsAfter (u.months * amount)).year then
          ∃ (l : LocalTime) (o : Observance), l.date = start.time.date.monthsAfter (u.months * amount) ∧
            l.milliOfDay = start.time.milliOfDay ∧ zone.ReadsWith l.seconds o ∧
            addToTimestamp s .gregorian time unit amount amountUnit zoneName = .ok (l.millis - 1000 * o.offset)
        else
          addToTimestamp s .gregorian time unit amount amountUnit zoneName =
            .error (.showing amount (.unsupportedShift amount u start))) ∧
    ∀ years months, CalendarUnit.named? years = some .year → CalendarUnit.named? months = some .month →
      (addToTimestamp s .gregorian time unit amount years zoneName).toOption =
        (addToTimestamp s .gregorian time unit (12 * amount) months zoneName).toOption := by
  refine ⟨fun amountUnit u zone hu hz => ?_, fun years months hy hm => addToTimestamp_years hy hm time amount unit⟩
  have hsum := addToTimestamp_of_named? hu hz time amount unit
  cases hstart : Moment.ofMillis? time zone with
  | none =>
    rw [hstart] at hsum
    exact hsum
  | some start =>
    rw [hstart] at hsum
    dsimp only at hsum ⊢
    split
    · rename_i hyear
      rw [if_pos hyear] at hsum
      obtain ⟨-, -, hd, -⟩ := start.time.date_bounds
      have hdate := Date.ofDay_toDay_monthsAfter hd (u.months * amount)
      refine ⟨start.time.onDate (start.time.date.monthsAfter (u.months * amount)), _,
        LocalTime.date_onDate _ hdate, LocalTime.milliOfDay_onDate _ _,
        (separated_of_zoneOrSystem hdb hz).reads_atLocal _, hsum⟩
    · rename_i hyear
      rw [if_neg hyear] at hsum
      exact hsum

/-- In New York a month after half past two on 14 February 2021 lies in a gap, and is read with the offset before it. -/
theorem addToTimestamp_calendar_newYork :
    ∃ (l : LocalTime) (o : Observance), l.date = ⟨2021, 3, 14⟩ ∧ l.milliOfDay = 9000000 ∧
      (Zone.region "America/New_York" Database.newYork).ReadsWith l.seconds o ∧
      addToTimestamp .bare .gregorian 1613287800000 none 1 (some "month")
        (some "America/New_York") = .ok (l.millis - 1000 * o.offset) := by
  have hz : resolveZone? "America/New_York" .listed = some (.region "America/New_York" Database.newYork) := by decide +kernel
  have hzone : zoneOrSystem .bare (some "America/New_York") =
      .ok (.region "America/New_York" Database.newYork) := by
    have hname : (some "America/New_York").filter (· != "") = some "America/New_York" := by decide
    unfold zoneOrSystem
    rw [hname]
    exact resolveZone_eq_ok_iff.2 hz
  have h := (addToTimestamp_calendar .bare Database.isSound_listed.separated 1613287800000 1 none
    (some "America/New_York")).1 (some "month") .month _ (by decide +kernel) hzone
  have hstart : Moment.ofMillis? 1613287800000 (.region "America/New_York" Database.newYork) =
      some (.firstPass (.region "America/New_York" Database.newYork) (.of ⟨2021, 2, 14⟩ 2 30 0 0)) := by
    decide +kernel
  have hdate : (LocalTime.of ⟨2021, 2, 14⟩ 2 30 0 0).date.monthsAfter (CalendarUnit.month.months * 1) =
      ⟨2021, 3, 14⟩ := by
    decide +kernel
  rw [hstart] at h
  dsimp only [Moment.firstPass] at h
  rw [hdate, if_pos (by decide)] at h
  obtain ⟨l, o, hl, htime, ho, hsum⟩ := h
  exact ⟨l, o, hl, by rw [htime]; decide, ho, hsum⟩

/-- From the beginning of 1970 by 10 ^ 4300 months a sum has no date, and the failure that tells this cannot be printed. -/
theorem not_addToTimestamp_calendar :
    ¬∀ (amount : Int) (start : Moment), Moment.ofMillis? 0 .utc = some start →
      supportedYear (start.time.date.monthsAfter amount).year = false →
      addToTimestamp .bare .gregorian 0 (some "ms") amount (some "month") (some "UTC") =
        .error (.unsupportedShift amount .month start) := by
  intro h
  have hstart : Moment.ofMillis? 0 .utc = some (.firstPass .utc ⟨0⟩) := by decide +kernel
  have hdate : (Moment.firstPass .utc ⟨0⟩).time.date = ⟨1970, 1, 1⟩ := by decide +kernel
  have hzone : zoneOrSystem .bare (some "UTC") = .ok .utc := eq_ok_of_toOption (by decide +kernel)
  have hmonth : CalendarUnit.named? (some "month") = some .month := by decide +kernel
  obtain ⟨amount, hfar, hdigits⟩ := exists_lt_digitCount
  have hyear : supportedYear ((Moment.firstPass .utc ⟨0⟩).time.date.monthsAfter amount).year = false := by
    rw [hdate]
    unfold supportedYear Date.monthsAfter
    rw [Bool.and_eq_false_iff]
    exact .inr (decide_eq_false (by dsimp only; omega))
  have hsum := addToTimestamp_of_named? hmonth hzone 0 amount (some "ms")
  have hone : CalendarUnit.month.months * (amount : Int) = amount := Int.one_mul _
  rw [h amount _ hstart hyear, hstart, hone] at hsum
  dsimp only at hsum
  rw [hyear, if_neg (by decide)] at hsum
  unfold Error.showing at hsum
  rw [if_pos hdigits] at hsum
  cases hsum

end CivilTime
