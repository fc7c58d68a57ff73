import CivilTime.Addition
import CivilTime.Expiry
import CivilTime.Proofs.Conversion
import CivilTime.Proofs.Outcome
import CivilTime.Timestamp

/-!
# Saturation

Conversion of a signed 64-bit number gives one again (`isInt64_convertDuration`): up to the bounds it is exact, and what exceeds
them becomes a bound (`IsInt64.convertDuration_eq`). Timestamps in another unit and given times of expiry are such conversions. A
time of expiry after the present, and a timestamp with a duration of fixed length added, are not: the converted amount is within
the bounds, but it is then added without a bound (`AddsUp`). Such a sum leaves the signed 64-bit numbers where the exact one does,
unless its parts differ in sign (`isInt64_add_nearest_iff`).
-/

namespace CivilTime

/-! ### Signed 64-bit numbers -/

/-- A number is a signed 64-bit number. -/
def IsInt64 (n : Int) : Prop := int64Min ≤ n ∧ n ≤ int64Max

instance (n : Int) : Decidable (IsInt64 n) :=
  inferInstanceAs (Decidable (_ ∧ _))

variable {v w : Int}

/-- Division towards zero stays between a number and zero. -/
private theorem isInt64_tdiv {r : Int} (h : IsInt64 v) (hr : 0 < r) : IsInt64 (v.tdiv r) := by
  have hsize : (v.tdiv r).natAbs ≤ v.natAbs := Int.natAbs_tdiv_le_natAbs v r
  have hzero : (0 : Int).tdiv r = 0 := Int.zero_tdiv r
  unfold IsInt64 int64Min int64Max at *
  rcases Int.le_total 0 v with hv | hv
  · have hsign : 0 ≤ v.tdiv r := hzero ▸ Int.tdiv_le_tdiv hr hv
    omega
  · have hsign : v.tdiv r ≤ 0 := hzero ▸ Int.tdiv_le_tdiv hr hv
    omega

theorem isInt64_convertDuration (h : IsInt64 v) (a b : DurationUnit) : IsInt64 (convertDuration v a b) := by
  rcases convertDuration_cases a b with rfl | ⟨r, hr⟩ | ⟨r, hr⟩
  · rwa [convertDuration_self]
  · rw [convertDuration_shorter hr]
    exact nearest_bounds (by decide)
  · rw [convertDuration_longer hr]
    exact isInt64_tdiv h hr.pos

/-- The conversion of a signed 64-bit number is the one that is nearest to the exact result. -/
theorem IsInt64.convertDuration_eq (h : IsInt64 v) (a b : DurationUnit) :
    convertDuration v a b = nearest int64Min int64Max (exactDuration v a b) := by
  obtain ⟨hlow, hhigh⟩ := isInt64_convertDuration h a b
  rw [← nearest_convertDuration, nearest_eq_self hlow hhigh]

/-! ### Sums -/

/-- A sum with an amount that is brought to the bounds stays within them where the exact sum does, and where its parts differ in
sign. -/
theorem isInt64_add_nearest_iff (h : IsInt64 v) :
    IsInt64 (v + nearest int64Min int64Max w) ↔ IsInt64 (v + w) ∨ 0 ≤ v ∧ w ≤ 0 ∨ v ≤ 0 ∧ 0 ≤ w := by
  unfold IsInt64 nearest int64Min int64Max at *
  omega

/-- The sums of a number and the conversions of signed 64-bit amounts: only the amounts are brought to the bounds. -/
structure AddsUp (base : Int) (source target : DurationUnit) (sum : Int → Int) : Prop where
  /-- A longer duration does not give a smaller sum. -/
  mono : ∀ v w, v ≤ w → sum v ≤ sum w
  /-- The amount is the nearest one within the bounds. -/
  eq : ∀ v, IsInt64 v → sum v = base + nearest int64Min int64Max (exactDuration v source target)
  /-- The sum is within the bounds where the exact one is, and where its parts differ in sign. -/
  isInt64_iff : ∀ v, IsInt64 v →
    (IsInt64 (sum v) ↔ IsInt64 (base + exactDuration v source target) ∨
      0 ≤ base ∧ exactDuration v source target ≤ 0 ∨ base ≤ 0 ∧ 0 ≤ exactDuration v source target)

theorem addsUp_convertDuration {base : Int} (h : IsInt64 base) (source target : DurationUnit) :
    AddsUp base source target fun v => base + convertDuration v source target where
  mono _ _ hle := Int.add_le_add_left (convertDuration_mono source target hle) base
  eq v hv := congrArg (base + ·) (hv.convertDuration_eq source target)
  isInt64_iff v hv := by
    rw [hv.convertDuration_eq]
    exact isInt64_add_nearest_iff h

/-- Timestamps in another unit and given times of expiry keep the order of timestamps and stay within the signed 64-bit numbers.
Times of expiry after the present and sums with durations of fixed length keep the order of the durations, and are the exact
sums with what the conversion of the duration gives. -/
theorem saturation_laws :
    (∀ time, IsInt64 time → ∀ source target : Option String,
      IsInt64 (convertTimestamp time source target) ∧ IsInt64 (expireAt time source)) ∧
    (∀ time later : Int, time ≤ later → ∀ source target : Option String,
      convertTimestamp time source target ≤ convertTimestamp later source target ∧
        expireAt time source ≤ expireAt later source) ∧
    ∀ base, IsInt64 base → ∀ unit : Option String,
      (AddsUp base (.named unit) .millisecond fun span => expireIn span unit base) ∧
      ∀ (s : Surroundings) (model : CalendarModel) (amountUnit zoneName : Option String),
        CalendarUnit.named? amountUnit = none →
          ∃ sum, AddsUp base (.named amountUnit) (.named unit) sum ∧
            ∀ amount, addToTimestamp s model base unit amount amountUnit zoneName = .ok (sum amount) := by
  refine ⟨fun time h source target => ?_, fun time later h source target => ?_, fun base h unit => ⟨?_, ?_⟩⟩
  · exact ⟨isInt64_convertDuration h _ _, isInt64_convertDuration h _ _⟩
  · exact ⟨convertDuration_mono _ _ h, convertDuration_mono _ _ h⟩
  · exact addsUp_convertDuration h _ _
  · intro s model amountUnit zoneName hunit
    refine ⟨_, addsUp_convertDuration h _ _, fun amount => ?_⟩
    unfold addToTimestamp
    rw [hunit]
    rfl

/-- The greatest number of days becomes the greatest number of milliseconds, which may be added to a time before 1970. That number
of milliseconds as days may be added after 1970 as well. -/
theorem saturation_laws_greatest :
    IsInt64 (convertTimestamp 9223372036854775807 (some "days") (some "ms")) ∧
      expireAt 9223372036854775806 none ≤ expireAt 9223372036854775807 none ∧
      IsInt64 (expireIn 9223372036854775807 (some "days") (-1)) ∧
      addToTimestamp .bare .gregorian 1000 (some "d") 9223372036854775807 (some "ms") none =
        .ok 106751992167 := by
  obtain ⟨hbounds, hmono, hsums⟩ := saturation_laws
  obtain ⟨sum, hsum, hadd⟩ := (hsums 1000 (by decide) (some "d")).2 .bare .gregorian (some "ms") none
    (by decide +kernel)
  have hvalue : sum 9223372036854775807 = 106751992167 := (hsum.eq _ (by decide)).trans (by decide +kernel)
  refine ⟨(hbounds _ (by decide) _ _).1, (hmono _ _ (by decide) none none).2, ?_, by rw [hadd, hvalue]⟩
  exact ((hsums (-1) (by decide) (some "days")).1.isInt64_iff _ (by decide)).2 (.inr (.inr (by decide +kernel)))

/-- Sums do not saturate: the greatest span after the present, and a millisecond after the greatest timestamp. -/
theorem not_isInt64_sums :
    IsInt64 9223372036854775807 ∧ IsInt64 1 ∧ ¬ IsInt64 (expireIn 9223372036854775807 (some "ms") 1) ∧
      ∃ sum, addToTimestamp .bare .gregorian 9223372036854775807 (some "ms") 1 (some "ms") none =
        .ok sum ∧ ¬ IsInt64 sum :=
  ⟨by decide, by decide, by decide +kernel, 9223372036854775808, eq_ok_of_toOption (by decide +kernel), by decide⟩

end CivilTime
