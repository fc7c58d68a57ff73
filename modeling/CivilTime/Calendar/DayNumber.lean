import CivilTime.Calendar.LocalTime

/-!
# Day numbers

Counting days and reading dates back from the count are inverse to each other: the date of a day number has that number
(`Date.toDay_ofDay`), and a date that exists is the one read from its number (`Date.ofDay_toDay`). The year that is found
for a day is the only one that begins on or before the day and ends after it (`yearOfDays_eq`). Day numbers and times of
day are read off a local time by division (`LocalTime.day_milliOfDay`).
-/

namespace CivilTime

/-! ### Years -/

theorem daysBeforeYear_succ (year : Int) :
    daysBeforeYear (year + 1) = daysBeforeYear year + (if isLeapYear year then 366 else 365) := by
  unfold daysBeforeYear isLeapYear
  split <;> rename_i h <;> simp at h <;> omega

theorem daysBeforeYear_le {a b : Int} (h : a ≤ b) : daysBeforeYear a ≤ daysBeforeYear b := by
  unfold daysBeforeYear
  omega

/-- The days before a year that is counted in whole cycles. -/
private theorem daysBeforeYear_cycles (q c f y : Int) (hc : 0 ≤ c ∧ c ≤ 3) (hf : 0 ≤ f ∧ f ≤ 24) (hy : 0 ≤ y ∧ y ≤ 3) :
    daysBeforeYear (400 * q + 100 * c + 4 * f + y + 1) = 146097 * q + 36524 * c + 1461 * f + 365 * y := by
  unfold daysBeforeYear
  omega

/-- The cycles by which a day's year is found, and the day of that year. -/
private theorem exists_cycles (days : Int) :
    ∃ q c f y r : Int, yearOfDays days = 400 * q + 100 * c + 4 * f + y + 1 ∧
      days = 146097 * q + 36524 * c + 1461 * f + 365 * y + r ∧ (0 ≤ c ∧ c ≤ 3) ∧ (0 ≤ f ∧ f ≤ 24) ∧
      (0 ≤ y ∧ y ≤ 3) ∧ 0 ≤ r ∧ r ≤ 365 ∧ (r = 365 → y = 3 ∧ (f ≠ 24 ∨ c = 3)) := by
  have hc : ∃ c, c = min (days % 146097 / 36524) 3 := ⟨_, rfl⟩
  obtain ⟨c, hc⟩ := hc
  have hf : ∃ f, f = (days % 146097 - 36524 * c) / 1461 := ⟨_, rfl⟩
  obtain ⟨f, hf⟩ := hf
  have hy : ∃ y, y = min ((days % 146097 - 36524 * c) % 1461 / 365) 3 := ⟨_, rfl⟩
  obtain ⟨y, hy⟩ := hy
  refine ⟨days / 146097, c, f, y, (days % 146097 - 36524 * c) % 1461 - 365 * y, ?_, ?_, ?_⟩
  · simp only [yearOfDays, ← hc, ← hf, ← hy]
  · omega
  · omega

/-- The year that is found begins on or before the day. -/
theorem daysBeforeYear_yearOfDays_le (days : Int) : daysBeforeYear (yearOfDays days) ≤ days := by
  obtain ⟨q, c, f, y, r, h, hd, hc, hf, hy, hr, _, _⟩ := exists_cycles days
  rw [h, daysBeforeYear_cycles q c f y hc hf hy]
  omega

/-- The year after the one that is found begins after the day. -/
theorem lt_daysBeforeYear_yearOfDays_succ (days : Int) : days < daysBeforeYear (yearOfDays days + 1) := by
  obtain ⟨q, c, f, y, r, h, hd, hc, hf, hy, hr, hr', hl⟩ := exists_cycles days
  have hb := daysBeforeYear_cycles q c f y hc hf hy
  rw [h]
  by_cases hq : r = 365
  · obtain ⟨rfl, hl⟩ := hl hq
    unfold daysBeforeYear
    omega
  · have : daysBeforeYear (400 * q + 100 * c + 4 * f + y + 1 + 1) ≥
        daysBeforeYear (400 * q + 100 * c + 4 * f + y + 1) + 365 := by
      rw [daysBeforeYear_succ]
      split <;> omega
    omega

/-- Only one year holds a day. -/
theorem yearOfDays_eq {days year : Int} (h : daysBeforeYear year ≤ days) (h' : days < daysBeforeYear (year + 1)) :
    yearOfDays days = year := by
  have hle := daysBeforeYear_yearOfDays_le days
  have hlt := lt_daysBeforeYear_yearOfDays_succ days
  by_cases lt : yearOfDays days < year
  · have := daysBeforeYear_le (show yearOfDays days + 1 ≤ year by omega)
    omega
  · by_cases gt : year < yearOfDays days
    · have := daysBeforeYear_le (show year + 1 ≤ yearOfDays days by omega)
      omega
    · omega

/-! ### Months -/

theorem length_monthLengths (year : Int) : (monthLengths year).length = 12 := by
  simp [monthLengths]

theorem getElem_monthLengths {year : Int} {i : Nat} (h : i < (monthLengths year).length) :
    (monthLengths year)[i] = monthLength year (i + 1) := by
  simp [monthLengths, Nat.add_comm]

theorem totalDays_append (l₁ l₂ : List Nat) : totalDays (l₁ ++ l₂) = totalDays l₁ + totalDays l₂ := by
  induction l₁ with
  | nil => simp [totalDays]
  | cons length lengths ih => simp [totalDays, ih, Nat.add_assoc]

theorem totalDays_monthLengths (year : Int) : totalDays (monthLengths year) = if isLeapYear year then 366 else 365 := by
  unfold monthLengths monthLength
  cases isLeapYear year <;> decide

/-- Walking over months ends in the month whose days hold the day that is sought. -/
private theorem monthDayOfDays_spec {lengths : List Nat} {days : Nat} (month : Nat) (h : days < totalDays lengths) :
    ∃ i, ∃ hi : i < lengths.length, (monthDayOfDays lengths month days).1 = month + i ∧
      1 ≤ (monthDayOfDays lengths month days).2 ∧ (monthDayOfDays lengths month days).2 ≤ lengths[i] ∧
      totalDays (lengths.take i) + (monthDayOfDays lengths month days).2 = days + 1 := by
  induction lengths generalizing month days with
  | nil => simp [totalDays] at h
  | cons length lengths ih =>
    unfold monthDayOfDays
    split
    · refine ⟨0, by simp, by simp, by simp, ?_, by simp [totalDays]⟩
      simp only [List.getElem_cons_zero]
      omega
    · rw [totalDays] at h
      obtain ⟨i, hi, hm, hl, hu, hsum⟩ := ih (month + 1) (show days - length < totalDays lengths by omega)
      refine ⟨i + 1, by simp only [List.length_cons]; omega, by omega, hl, by simpa using hu, ?_⟩
      simp only [List.take_succ_cons, totalDays]
      omega

/-- Walking over months finds the month and the day that it starts from. -/
private theorem monthDayOfDays_totalDays {lengths : List Nat} {i day : Nat} (month : Nat) (hi : i < lengths.length)
    (hd : day < lengths[i]) :
    monthDayOfDays lengths month (totalDays (lengths.take i) + day) = (month + i, day + 1) := by
  induction lengths generalizing month i with
  | nil => simp at hi
  | cons length lengths ih =>
    cases i with
    | zero =>
      simp only [List.getElem_cons_zero] at hd
      simp [monthDayOfDays, totalDays, hd]
    | succ i =>
      simp only [List.length_cons, List.getElem_cons_succ] at hi hd
      have := ih (month + 1) (show i < lengths.length by omega) hd
      unfold monthDayOfDays
      rw [if_neg (by simp only [List.take_succ_cons, totalDays]; omega)]
      simp only [List.take_succ_cons, totalDays]
      rw [show length + totalDays (lengths.take i) + day - length = totalDays (lengths.take i) + day by omega, this]
      simp only [Prod.mk.injEq, and_true]
      omega

/-! ### Dates -/

/-- The day of its year on which a day lies, counted from zero. -/
private theorem dayOfYear_lt (day : Int) :
    (day + daysBeforeEpoch - daysBeforeYear (yearOfDays (day + daysBeforeEpoch))).toNat <
      totalDays (monthLengths (yearOfDays (day + daysBeforeEpoch))) := by
  have hle := daysBeforeYear_yearOfDays_le (day + daysBeforeEpoch)
  have hlt := lt_daysBeforeYear_yearOfDays_succ (day + daysBeforeEpoch)
  rw [daysBeforeYear_succ] at hlt
  rw [totalDays_monthLengths]
  by_cases h : isLeapYear (yearOfDays (day + daysBeforeEpoch))
  · rw [if_pos h] at hlt ⊢
    omega
  · rw [if_neg h] at hlt ⊢
    omega

/-- The month and the day of a date that is read from a day number exist. -/
theorem Date.ofDay_bounds (day : Int) :
    1 ≤ (ofDay day).month ∧ (ofDay day).month ≤ 12 ∧ 1 ≤ (ofDay day).day ∧
      (ofDay day).day ≤ monthLength (ofDay day).year (ofDay day).month := by
  obtain ⟨i, hi, hm, hl, hu, _⟩ := monthDayOfDays_spec 1 (dayOfYear_lt day)
  rw [getElem_monthLengths] at hu
  rw [length_monthLengths] at hi
  simp only [ofDay, hm]
  rw [show i + 1 = 1 + i by omega] at hu
  exact ⟨by omega, by omega, hl, hu⟩

/-- The date that is read from a day number has that number. -/
theorem Date.toDay_ofDay (day : Int) : (ofDay day).toDay = day := by
  obtain ⟨i, hi, hm, hl, hu, hsum⟩ := monthDayOfDays_spec 1 (dayOfYear_lt day)
  have hle := daysBeforeYear_yearOfDays_le (day + daysBeforeEpoch)
  simp only [toDay, ofDay, daysBeforeMonth, hm]
  rw [show 1 + i - 1 = i by omega]
  omega

/-- A date that exists is the one that is read from its number. -/
theorem Date.ofDay_toDay {d : Date} (hm : 1 ≤ d.month) (hm' : d.month ≤ 12) (hd : 1 ≤ d.day)
    (hd' : d.day ≤ monthLength d.year d.month) : ofDay d.toDay = d := by
  have hi : d.month - 1 < (monthLengths d.year).length := by
    rw [length_monthLengths]
    omega
  have hl : d.day - 1 < (monthLengths d.year)[d.month - 1] := by
    rw [getElem_monthLengths, show d.month - 1 + 1 = d.month by omega]
    omega
  have walk := monthDayOfDays_totalDays 1 hi hl
  have inYear : daysBeforeMonth d.year d.month + (d.day - 1) < totalDays (monthLengths d.year) := by
    have split := congrArg totalDays (List.take_append_drop (d.month - 1) (monthLengths d.year))
    rw [List.drop_eq_getElem_cons hi, totalDays_append, totalDays] at split
    unfold daysBeforeMonth
    omega
  have hyear : yearOfDays (d.toDay + daysBeforeEpoch) = d.year := by
    rw [totalDays_monthLengths] at inYear
    apply yearOfDays_eq
    · unfold toDay
      omega
    · rw [daysBeforeYear_succ]
      unfold toDay
      by_cases h : isLeapYear d.year
      · rw [if_pos h] at inYear ⊢
        omega
      · rw [if_neg h] at inYear ⊢
        omega
  have hday : (d.toDay + daysBeforeEpoch - daysBeforeYear d.year).toNat =
      totalDays ((monthLengths d.year).take (d.month - 1)) + (d.day - 1) := by
    unfold toDay daysBeforeMonth
    omega
  unfold ofDay
  simp only [hyear, hday, walk]
  rw [show 1 + (d.month - 1) = d.month by omega, show d.day - 1 + 1 = d.day by omega]

/-! ### Local times -/

namespace LocalTime

theorem milliOfDay_lt (t : LocalTime) : t.milliOfDay < 86400000 := by
  unfold milliOfDay millisPerDay
  omega

/-- A local time is made of its day and its time of day. -/
theorem day_milliOfDay (t : LocalTime) : t.day * millisPerDay + t.milliOfDay = t.millis := by
  unfold day milliOfDay millisPerDay
  omega

theorem hour_lt (t : LocalTime) : t.hour < 24 := by
  have := t.milliOfDay_lt
  unfold hour
  omega

theorem minute_lt (t : LocalTime) : t.minute < 60 := by
  unfold minute
  omega

theorem second_lt (t : LocalTime) : t.second < 60 := by
  unfold second
  omega

theorem milli_lt (t : LocalTime) : t.milli < 1000 := by
  unfold milli
  omega

/-- A local time is put together again from its date and its time of day. -/
theorem of_date (t : LocalTime) : of t.date t.hour t.minute t.second t.milli = t := by
  have := t.day_milliOfDay
  simp only [of, date, Date.toDay_ofDay, hour, minute, second, milli]
  congr
  omega

/-- The time of day stays when the date changes. -/
theorem milliOfDay_onDate (t : LocalTime) (d : Date) : (t.onDate d).milliOfDay = t.milliOfDay := by
  have := t.milliOfDay_lt
  change ((d.toDay * 86400000 + t.milliOfDay) % 86400000).toNat = t.milliOfDay
  omega

theorem day_onDate (t : LocalTime) (d : Date) : (t.onDate d).day = d.toDay := by
  have := t.milliOfDay_lt
  change (d.toDay * 86400000 + t.milliOfDay) / 86400000 = d.toDay
  omega

end LocalTime

end CivilTime
