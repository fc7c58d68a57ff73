import CivilTime.Proofs.Months

/-!
# Dates and times that exist

A date exists if its year is supported, its month is one of twelve and its day is one of the month (`Date.isValid_iff`). The
date of a supported time exists (`LocalTime.isValid_date`), and a date that exists makes a supported time with every time of
day (`LocalTime.isSupported_of`), off which date and time of day are read again.
-/

namespace CivilTime

/-! ### Dates -/

namespace Date

variable {d : Date}

theorem isValid_iff :
    d.isValid = true ↔ supportedYear d.year = true ∧ (1 ≤ d.month ∧ d.month ≤ 12) ∧ 1 ≤ d.day ∧
      d.day ≤ monthLength d.year d.month := by
  unfold isValid
  simp only [Bool.and_eq_true, decide_eq_true_eq, and_assoc]

/-- A day that is brought down to the length of its month makes a date that exists. -/
theorem isValid_clamped (hy : supportedYear d.year = true) (hm : 1 ≤ d.month ∧ d.month ≤ 12) (hd : 1 ≤ d.day) :
    d.clamped.isValid = true := by
  have hlen := monthLength_bounds d.year d.month
  rw [isValid_iff]
  refine ⟨hy, hm, ?_, Nat.min_le_right _ _⟩
  exact Nat.le_min.2 ⟨hd, by omega⟩

theorem clamped_of_isValid (h : d.isValid = true) : d.clamped = d := by
  obtain ⟨-, -, -, hd⟩ := isValid_iff.1 h
  unfold clamped
  rw [Nat.min_eq_left hd]

theorem ofDay_toDay_of_isValid (h : d.isValid = true) : ofDay d.toDay = d := by
  obtain ⟨-, ⟨hm, hm'⟩, hd, hd'⟩ := isValid_iff.1 h
  exact ofDay_toDay hm hm' hd hd'

/-- The days of the supported years. -/
theorem toDay_bounds (h : d.isValid = true) : -719162 ≤ d.toDay ∧ d.toDay < 2932897 := by
  obtain ⟨hy, -⟩ := isValid_iff.1 h
  unfold supportedYear at hy
  simp only [Bool.and_eq_true, decide_eq_true_eq] at hy
  have hyear : yearOfDays (d.toDay + daysBeforeEpoch) = d.year := congrArg Date.year (ofDay_toDay_of_isValid h)
  have hle := daysBeforeYear_yearOfDays_le (d.toDay + daysBeforeEpoch)
  have hlt := lt_daysBeforeYear_yearOfDays_succ (d.toDay + daysBeforeEpoch)
  rw [hyear] at hle hlt
  have hfirst := daysBeforeYear_le hy.1
  have hlast := daysBeforeYear_le (show d.year + 1 ≤ 10000 by omega)
  have hone : daysBeforeYear 1 = 0 := by decide
  have hmax : daysBeforeYear 10000 = 3652059 := by decide
  have hepoch : daysBeforeEpoch = 719162 := rfl
  omega

end Date

/-! ### Times -/

theorem LocalTime.year_bounds {t : LocalTime} (h : t.isSupported = true) : 1 ≤ t.date.year ∧ t.date.year ≤ 9999 := by
  simp only [isSupported, Bool.and_eq_true, decide_eq_true_eq] at h
  have hday : t.day = t.millis / 86400000 := rfl
  have hyear : t.date.year = yearOfDays (t.day + daysBeforeEpoch) := rfl
  have hle := daysBeforeYear_yearOfDays_le (t.day + daysBeforeEpoch)
  have hlt := lt_daysBeforeYear_yearOfDays_succ (t.day + daysBeforeEpoch)
  have hepoch : daysBeforeEpoch = 719162 := rfl
  rw [← hyear] at hle hlt
  constructor
  · by_cases hlow : 1 ≤ t.date.year
    · exact hlow
    · have hone : daysBeforeYear 1 = 0 := by decide
      have := daysBeforeYear_le (show t.date.year + 1 ≤ 1 by omega)
      omega
  · by_cases hhigh : t.date.year ≤ 9999
    · exact hhigh
    · have hmax : daysBeforeYear 10000 = 3652059 := by decide
      have := daysBeforeYear_le (show 10000 ≤ t.date.year by omega)
      omega

theorem LocalTime.supportedYear_date {t : LocalTime} (h : t.isSupported = true) : supportedYear t.date.year = true := by
  obtain ⟨hy, hy'⟩ := year_bounds h
  unfold supportedYear
  rw [decide_eq_true hy, decide_eq_true hy', Bool.and_self]

theorem LocalTime.isValid_date {t : LocalTime} (h : t.isSupported = true) : t.date.isValid = true := by
  obtain ⟨hm, hm', hd, hd'⟩ := t.date_bounds
  exact Date.isValid_iff.2 ⟨supportedYear_date h, ⟨hm, hm'⟩, hd, hd'⟩

/-- The supported times are those whose date lies in a supported year. -/
theorem LocalTime.isSupported_iff {t : LocalTime} : t.isSupported = true ↔ supportedYear t.date.year = true := by
  refine ⟨supportedYear_date, fun hyear => ?_⟩
  obtain ⟨hm, hm', hd, hd'⟩ := t.date_bounds
  have hbounds := Date.toDay_bounds (Date.isValid_iff.2 ⟨hyear, ⟨hm, hm'⟩, hd, hd'⟩)
  have hday : t.date.toDay = t.millis / 86400000 := Date.toDay_ofDay t.day
  rw [hday] at hbounds
  unfold isSupported
  simp only [Bool.and_eq_true, decide_eq_true_eq]
  omega

namespace LocalTime

section

variable {date : Date} {hour minute second milli : Nat}

private theorem day_milliOfDay_of (hh : hour < 24) (hm : minute < 60) (hs : second < 60) (hms : milli < 1000) :
    (of date hour minute second milli).day = date.toDay ∧
      (of date hour minute second milli).milliOfDay = 3600000 * hour + 60000 * minute + 1000 * second + milli := by
  unfold day milliOfDay of millisPerDay
  dsimp only
  omega

/-- Date and time of day are read off the time that they make. -/
theorem parts_of (hdate : date.isValid = true) (hh : hour < 24) (hm : minute < 60) (hs : second < 60)
    (hms : milli < 1000) :
    (of date hour minute second milli).date = date ∧ (of date hour minute second milli).hour = hour ∧
      (of date hour minute second milli).minute = minute ∧ (of date hour minute second milli).second = second := by
  obtain ⟨hday, hofDay⟩ := day_milliOfDay_of  hh hm hs hms
  refine ⟨?_, ?_, ?_, ?_⟩
  · unfold LocalTime.date
    rw [hday]
    exact Date.ofDay_toDay_of_isValid hdate
  · unfold LocalTime.hour
    rw [hofDay]
    omega
  · unfold LocalTime.minute
    rw [hofDay]
    omega
  · unfold LocalTime.second
    rw [hofDay]
    omega

theorem isSupported_of (hdate : date.isValid = true) (hh : hour < 24) (hm : minute < 60) (hs : second < 60)
    (hms : milli < 1000) : (of date hour minute second milli).isSupported = true := by
  obtain ⟨hlow, hhigh⟩ := Date.toDay_bounds hdate
  unfold isSupported of millisPerDay
  simp only [Bool.and_eq_true, decide_eq_true_eq]
  omega

end

end LocalTime

end CivilTime
