import CivilTime.Proofs.SumRange
import CivilTime.Proofs.SumsInSteps
import CivilTime.Proofs.Zone.FirstYear
import CivilTime.Proofs.Zone.Overlaps

/-!
# Adding nothing

A sum of months or years is an instant on the first pass of its local time. So adding nothing leads from an instant to the first
one that shows the same local time: to itself, or back by the length of the overlap in which it lies
(`Moment.toMillis_firstPass_of_repeats`). The two have the same sums, because a sum depends on the local time alone
(`toOption_addToTimestamp_congr`); so nothing changes when nothing is added again (`addToTimestamp_zero`).
-/

namespace CivilTime

/-! ### Instants that show one local time -/

/-- An instant lies in an overlap where an earlier one shows the same local time. -/
theorem Zone.exists_repeats_iff {zone : Zone} (h : zone.Separated) (hb : zone.Bounded) {millis : Int} :
    (∃ v, zone.Repeats v (millis / 1000)) ↔ ∃ earlier < millis, zone.localTime earlier = zone.localTime millis := by
  constructor
  · rintro ⟨v, hv⟩
    have hat := h.repeatsAt hb hv
    have hfirst := hat.first
    have heq := hat.offset_eq
    have hle := hat.le
    have hlt := hat.lt
    refine ⟨millis - 1000 * zone.overlap v, by unfold overlap; omega, ?_⟩
    have hsec : (millis - 1000 * zone.overlap v) / 1000 = millis / 1000 - zone.overlap v := by omega
    unfold localTime LocalTime.plus
    rw [hsec, LocalTime.mk.injEq]
    unfold overlap
    rw [hfirst, heq]
    dsimp only
    omega
  · rintro ⟨earlier, hlt, hsame⟩
    have hmillis := congrArg LocalTime.millis hsame
    unfold localTime at hmillis
    rw [LocalTime.millis_plus, LocalTime.millis_plus] at hmillis
    dsimp only at hmillis
    rw [← h.secondPass_iff hb]
    exact h.secondPass_of_lt (shows_of_localTime rfl) (shows_of_localTime hsame) (by omega)

/-- Overlaps lie after the year 1. -/
theorem Zone.IsCalmAtStart.le_of_repeats {zone : Zone} (hcalm : zone.IsCalmAtStart) (h : zone.Separated)
    (hb : zone.Bounded) {v s : Int} (hv : zone.Repeats v s) : newYear 2 ≤ s := by
  have hpass := h.secondPass_of_repeats hb hv
  by_cases hearly : s < newYear 2
  · rw [hcalm.firstPass s hearly] at hpass
    cases hpass
  · omega

namespace Moment

variable {zone : Zone} {millis v : Int} {m : Moment}

/-- In an overlap the first pass of a local time lies before the second one by the length of the overlap. -/
theorem toMillis_firstPass_of_repeats (h : zone.Separated) (hb : zone.Bounded) (hm : ofMillis? millis zone = some m)
    (hv : zone.Repeats v (millis / 1000)) : (firstPass zone m.time).toMillis = millis - 1000 * zone.overlap v := by
  have hat := h.repeatsAt hb hv
  have hfirst := hat.first
  have heq := hat.offset_eq
  obtain ⟨-, rfl⟩ := ofMillis?_eq_some_iff.1 hm
  have hreads := h.coherent.reads (millis / 1000 - ((zone.atUtc (v - 1)).1.offset - (zone.atUtc v).1.offset))
  rw [hfirst] at hreads
  dsimp only at hreads
  have hmillis : ∀ time : LocalTime, (firstPass zone time).toMillis =
      time.millis - 1000 * (zone.atLocal false time.seconds).offset := fun _ => rfl
  have hlocal : millis / 1000 + (zone.atUtc (millis / 1000)).1.offset =
      millis / 1000 - ((zone.atUtc (v - 1)).1.offset - (zone.atUtc v).1.offset) + (zone.atUtc (v - 1)).1.offset := by
    omega
  rw [hmillis, LocalTime.seconds_plus, LocalTime.millis_plus]
  change millis + _ - 1000 * (zone.atLocal false (millis / 1000 + (zone.atUtc (millis / 1000)).1.offset)).offset = _
  rw [hlocal, hreads, heq]
  unfold Zone.overlap
  omega

theorem toMillis_firstPass_of_not_repeats (h : zone.Separated) (hm : ofMillis? millis zone = some m)
    (hno : ¬∃ v, zone.Repeats v (millis / 1000)) : (firstPass zone m.time).toMillis = millis := by
  obtain ⟨-, -, hiff⟩ := toMillis_firstPass_isLeast h hm
  rw [hiff]
  obtain ⟨-, rfl⟩ := ofMillis?_eq_some_iff.1 hm
  rw [← Bool.not_eq_true]
  intro hpass
  obtain ⟨u, hu⟩ := h.coherent.repeats _ hpass
  exact hno ⟨u, hu.le, hu.lt⟩

/-- The first pass of a local time that is shown is shown as well. -/
theorem exists_ofMillis?_of_firstPass (h : zone.Separated) (hb : zone.Bounded) (hcalm : zone.IsCalmAtStart)
    (hm : ofMillis? millis zone = some m) :
    ∃ first, ofMillis? (firstPass zone m.time).toMillis zone = some first ∧ first.time = m.time := by
  obtain ⟨htime, hleast, -⟩ := toMillis_firstPass_isLeast h hm
  obtain ⟨⟨hutc, hlocal⟩, -⟩ := ofMillis?_eq_some_iff.1 hm
  have hsupported : (⟨(firstPass zone m.time).toMillis⟩ : LocalTime).isSupported = true := by
    by_cases hv : ∃ v, zone.Repeats v (millis / 1000)
    · obtain ⟨v, hv⟩ := hv
      have hlate := hcalm.le_of_repeats h hb hv
      have hle := hv.le
      have hlt := hv.lt
      have hoff := hb _ (zone.atUtc_mem v)
      have hoff' := hb _ (zone.atUtc_mem (v - 1))
      rw [toMillis_firstPass_of_repeats h hb hm hv]
      rw [newYear_start] at hlate
      unfold Zone.overlap at hlt ⊢
      unfold LocalTime.isSupported at hutc ⊢
      simp only [Bool.and_eq_true, decide_eq_true_eq] at hutc ⊢
      omega
    · rwa [toMillis_firstPass_of_not_repeats h hm hv]
  refine ⟨⟨zone, m.time, (zone.atUtc ((firstPass zone m.time).toMillis / 1000)).2⟩,
    ofMillis?_eq_some_iff.2 ⟨⟨hsupported, hlocal⟩, ?_⟩, rfl⟩
  rw [mk.injEq]
  exact ⟨rfl, htime.symm, rfl⟩

end Moment

/-! ### Sums -/

section

variable {s : Surroundings} {zoneName amountUnit : Option String} {zone : Zone} {u : CalendarUnit} {time time' : Int}
  {start start' : Moment}

/-- A sum depends on the local time alone. -/
theorem toOption_addToTimestamp_congr (hu : CalendarUnit.named? amountUnit = some u)
    (hz : zoneOrSystem s zoneName = .ok zone) (hstart : Moment.ofMillis? time zone = some start)
    (hstart' : Moment.ofMillis? time' zone = some start') (htime : start.time = start'.time) (amount : Int)
    (unit : Option String) :
    (addToTimestamp s .gregorian time unit amount amountUnit zoneName).toOption =
      (addToTimestamp s .gregorian time' unit amount amountUnit zoneName).toOption := by
  rw [addToTimestamp_of_named? hu hz, addToTimestamp_of_named? hu hz, hstart, hstart']
  dsimp only
  rw [htime]
  split <;> rfl

/-- Adding nothing leads to the first pass of the local time. -/
theorem addToTimestamp_zero_eq (hu : CalendarUnit.named? amountUnit = some u) (hz : zoneOrSystem s zoneName = .ok zone)
    (hstart : Moment.ofMillis? time zone = some start) (unit : Option String) :
    addToTimestamp s .gregorian time unit 0 amountUnit zoneName = .ok (Moment.firstPass zone start.time).toMillis := by
  obtain ⟨hm, hm', -, hd⟩ := start.time.date_bounds
  obtain ⟨⟨-, hsupported⟩, -⟩ := Moment.ofMillis?_eq_some_iff.1 hstart
  rw [addToTimestamp_of_named? hu hz, hstart]
  dsimp only
  rw [Int.mul_zero, Date.monthsAfter_zero hm hm' hd, if_pos (LocalTime.supportedYear_date hsupported),
    LocalTime.onDate_date]

/-- Adding no month and no year leads back to the instant, unless an earlier one shows the same local time: then the instant lies
in an overlap, and the sum before it by the length of the overlap. When nothing is added to the sum it stays as it is, and the
sums of months and years with it are those with the instant. -/
theorem addToTimestamp_zero (hdb : s.database.IsSound) (hcalm : s.database.IsCalmAtStart)
    (hu : CalendarUnit.named? amountUnit = some u) (hz : zoneOrSystem s zoneName = .ok zone)
    (hstart : Moment.ofMillis? time zone = some start) (unit : Option String) :
    ∃ sum, addToTimestamp s .gregorian time unit 0 amountUnit zoneName = .ok sum ∧
      ((∃ v, zone.Repeats v (time / 1000)) ↔ ∃ earlier < time, zone.localTime earlier = zone.localTime time) ∧
      ((¬∃ v, zone.Repeats v (time / 1000)) → sum = time) ∧
      (∀ v, zone.Repeats v (time / 1000) → sum = time - 1000 * zone.overlap v) ∧
      addToTimestamp s .gregorian sum unit 0 amountUnit zoneName = .ok sum ∧
      ∀ amount unit otherUnit w, CalendarUnit.named? otherUnit = some w →
        (addToTimestamp s .gregorian sum unit amount otherUnit zoneName).toOption =
          (addToTimestamp s .gregorian time unit amount otherUnit zoneName).toOption := by
  obtain ⟨name, hname⟩ := exists_resolveZone?_of_zoneOrSystem hz
  have hsep := separated_of_resolveZone? hdb.separated hname
  have hb := bounded_of_resolveZone? hdb.bounded hname
  obtain ⟨first, hfirst, htime⟩ :=
    Moment.exists_ofMillis?_of_firstPass hsep hb (isCalmAtStart_of_resolveZone? hcalm hname) hstart
  refine ⟨_, addToTimestamp_zero_eq hu hz hstart unit, Zone.exists_repeats_iff hsep hb,
    Moment.toMillis_firstPass_of_not_repeats hsep hstart,
    fun v hv => Moment.toMillis_firstPass_of_repeats hsep hb hstart hv, ?_,
    fun amount unit otherUnit w hw => toOption_addToTimestamp_congr hw hz hfirst hstart htime amount unit⟩
  rw [addToTimestamp_zero_eq hu hz hfirst, htime]

end

/-- In New York no month after the second half past one on 7 November 2021 is the first half past one, an hour before it; a month
later both have come to half past one on 7 December. -/
theorem addToTimestamp_zero_newYork :
    addToTimestamp .bare .gregorian 1636266600000 none 0 (some "months")
        (some "America/New_York") = .ok (1636266600000 - 1000 * 3600) ∧
      (addToTimestamp .bare .gregorian 1636263000000 none 1 (some "months")
        (some "America/New_York")).toOption =
        (addToTimestamp .bare .gregorian 1636266600000 none 1 (some "months")
          (some "America/New_York")).toOption := by
  have hzone : zoneOrSystem .bare (some "America/New_York") =
      .ok (.region "America/New_York" Database.newYork) :=
    eq_ok_of_toOption (by decide +kernel)
  have hu : CalendarUnit.named? (some "months") = some .month := by decide +kernel
  have hstart : Moment.ofMillis? 1636266600000 (.region "America/New_York" Database.newYork) =
      some ⟨.region "America/New_York" Database.newYork, .of ⟨2021, 11, 7⟩ 1 30 0 0, true⟩ := by
    decide +kernel
  have hv : (Zone.region "America/New_York" Database.newYork).Repeats 1636264800 (1636266600000 / 1000) :=
    ⟨by decide, by decide +kernel⟩
  have hhour : (Zone.region "America/New_York" Database.newYork).overlap 1636264800 = 3600 := by decide +kernel
  obtain ⟨sum, hsum, -, -, hback, -, hother⟩ :=
    addToTimestamp_zero Database.isSound_listed Database.isCalmAtStart_listed hu hzone hstart none
  obtain rfl : sum = 1636266600000 - 1000 * 3600 := by rw [hback _ hv, hhour]
  exact ⟨hsum, hother 1 none (some "months") .month hu⟩

end CivilTime
