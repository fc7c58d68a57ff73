import CivilTime.Calendar.DayNumber

/-!
# Counting months

Moving a date by months and years is counting: months are numbered from January of the year 0 on, the number of the month
reached is divided by twelve, rounding down, and the day is brought down to the length of that month
(`Date.monthsAfter`). The amount may have either sign and any size (`Date.addMonths_eq`), and a year is twelve months
(`Date.addYears_eq`). A move by more months ends at least 28 days later (`Date.toDay_monthsAfter_lt`), and two moves end in the
month in which one move by their sum does (`Date.monthsAfter_monthsAfter`).
-/

namespace CivilTime

/-- The date a number of months later, in whatever year. -/
def Date.monthsAfter (d : Date) (months : Int) : Date :=
  let index := 12 * d.year + (d.month - 1) + months
  { year := index / 12
    month := (index % 12).toNat + 1
    day := min d.day (monthLength (index / 12) ((index % 12).toNat + 1)) }

theorem monthLength_bounds (year : Int) (month : Nat) : 28 ≤ monthLength year month ∧
    monthLength year month ≤ 31 := by
  unfold monthLength
  cases isLeapYear year <;> split <;> decide

theorem LocalTime.date_bounds (t : LocalTime) :
    1 ≤ t.date.month ∧ t.date.month ≤ 12 ∧ 1 ≤ t.date.day ∧ t.date.day ≤ monthLength t.date.year t.date.month :=
  Date.ofDay_bounds t.day

private theorem daysBeforeMonth_succ (year : Int) (month : Nat) (hm : 1 ≤ month) (hm' : month ≤ 12) :
    daysBeforeMonth year (month + 1) = daysBeforeMonth year month + monthLength year month := by
  have hi : month - 1 < (monthLengths year).length := by
    rw [length_monthLengths]
    omega
  have hlast : (monthLengths year)[month - 1] = monthLength year month := by
    rw [getElem_monthLengths, Nat.sub_add_cancel hm]
  have htake : (monthLengths year).take month = (monthLengths year).take (month - 1) ++ [monthLength year month] := by
    have h := List.take_append_getElem hi
    rw [hlast, Nat.sub_add_cancel hm] at h
    exact h.symm
  unfold daysBeforeMonth
  rw [Nat.add_sub_cancel, htake, totalDays_append]
  rfl

namespace Date

variable {d : Date}

/-- Splitting off whole years and carrying months over comes to division. -/
private theorem shift_eq (hm : 1 ≤ d.month) (hm' : d.month ≤ 12) {years months : Int} (hlow : -12 < months)
    (hhigh : months < 12) :
    d.shift years months =
      if supportedYear (d.monthsAfter (12 * years + months)).year then some (d.monthsAfter (12 * years + months))
      else none := by
  have hindex : ∀ year' : Int, ∀ month' : Int, 1 ≤ month' → month' ≤ 12 →
      12 * year' + (month' - 1) = 12 * d.year + (d.month - 1) + (12 * years + months) →
      d.monthsAfter (12 * years + months) = (⟨year', month'.toNat, d.day⟩ : Date).clamped := by
    intro year' month' h1 h2 he
    have hy : (12 * d.year + (d.month - 1) + (12 * years + months)) / 12 = year' := by omega
    have hmo : ((12 * d.year + (d.month - 1) + (12 * years + months)) % 12).toNat + 1 = month'.toNat := by omega
    unfold monthsAfter clamped
    dsimp only
    rw [hy, hmo]
  have hyear : ∀ e : Date, e.clamped.year = e.year := fun _ => rfl
  unfold shift
  dsimp only
  by_cases hover : 12 < (d.month : Int) + months
  · rw [if_pos hover, hindex (d.year + years + 1) (d.month + months - 12) (by omega) (by omega) (by omega), hyear]
  · rw [if_neg hover]
    by_cases hunder : (d.month : Int) + months < 1
    · rw [if_pos hunder, hindex (d.year + years - 1) (d.month + months + 12) (by omega) (by omega) (by omega), hyear]
    · rw [if_neg hunder, hindex (d.year + years) (d.month + months) (by omega) (by omega) (by omega), hyear]

theorem addMonths_eq (hm : 1 ≤ d.month) (hm' : d.month ≤ 12) (months : Int) :
    d.addMonths months =
      if supportedYear (d.monthsAfter months).year then some (d.monthsAfter months) else none := by
  have hsplit := Int.mul_tdiv_add_tmod months 12
  have hlow := Int.lt_tmod_of_pos months (b := 12) (by decide)
  have hhigh := Int.tmod_lt_of_pos months (b := 12) (by decide)
  unfold addMonths
  rw [shift_eq hm hm' hlow hhigh, hsplit]

theorem addYears_eq (hm : 1 ≤ d.month) (hm' : d.month ≤ 12) (years : Int) :
    d.addYears years =
      if supportedYear (d.monthsAfter (12 * years)).year then some (d.monthsAfter (12 * years)) else none := by
  unfold addYears
  rw [shift_eq hm hm' (by decide) (by decide), Int.add_zero]

/-! ### The date reached -/

/-- The length of the month a number of months later. -/
def lengthAfter (d : Date) (months : Int) : Nat :=
  monthLength (d.monthsAfter months).year (d.monthsAfter months).month

theorem day_monthsAfter (d : Date) (months : Int) : (d.monthsAfter months).day = min d.day (d.lengthAfter months) := rfl

theorem lengthAfter_bounds (d : Date) (months : Int) : 28 ≤ d.lengthAfter months ∧ d.lengthAfter months ≤ 31 :=
  monthLength_bounds _ _

theorem month_monthsAfter_bounds (d : Date) (months : Int) :
    1 ≤ (d.monthsAfter months).month ∧ (d.monthsAfter months).month ≤ 12 := by
  unfold monthsAfter
  dsimp only
  omega

/-- The date reached exists. -/
theorem ofDay_toDay_monthsAfter (hd : 1 ≤ d.day) (months : Int) :
    ofDay (d.monthsAfter months).toDay = d.monthsAfter months := by
  have hlen := d.lengthAfter_bounds months
  have hday := d.day_monthsAfter months
  obtain ⟨hm, hm'⟩ := d.month_monthsAfter_bounds months
  exact ofDay_toDay hm hm' (by omega) (hday ▸ Nat.min_le_right _ _)

theorem monthsAfter_zero (hm : 1 ≤ d.month) (hm' : d.month ≤ 12) (hd : d.day ≤ monthLength d.year d.month) :
    d.monthsAfter 0 = d := by
  have hyear : (12 * d.year + (d.month - 1) + 0) / 12 = d.year := by omega
  have hmonth : ((12 * d.year + (d.month - 1) + 0) % 12).toNat + 1 = d.month := by omega
  unfold monthsAfter
  dsimp only
  rw [hyear, hmonth, Nat.min_eq_left hd]

/-- Moving on from the date reached comes to the month that one move comes to, on a day that is brought down to the lengths of
both months. -/
theorem monthsAfter_monthsAfter (d : Date) (m n : Int) :
    (d.monthsAfter m).monthsAfter n =
      { d.monthsAfter (m + n) with day := min (min d.day (d.lengthAfter m)) (d.lengthAfter (m + n)) } := by
  have hindex : 12 * (d.monthsAfter m).year + ((d.monthsAfter m).month - 1) + n =
      12 * d.year + (d.month - 1) + (m + n) := by
    unfold monthsAfter
    dsimp only
    omega
  rw [monthsAfter, hindex, d.day_monthsAfter m]
  rfl

/-- Days are counted on from the first day of the month. -/
private theorem toDay_eq_add (year : Int) (month day : Nat) :
    toDay ⟨year, month, day⟩ = toDay ⟨year, month, 1⟩ + (day - 1) := by
  unfold toDay
  dsimp only
  omega

/-- The days that are lost in two moves are those that the month in between is too short for, and the last month is not. -/
theorem toDay_monthsAfter_monthsAfter (d : Date) (m n : Int) :
    ((d.monthsAfter m).monthsAfter n).toDay =
      (d.monthsAfter (m + n)).toDay - max 0 (min d.day (d.lengthAfter (m + n)) - d.lengthAfter m : Int) := by
  have hreached : (d.monthsAfter (m + n)).toDay =
      toDay ⟨(d.monthsAfter (m + n)).year, (d.monthsAfter (m + n)).month, min d.day (d.lengthAfter (m + n))⟩ := rfl
  rw [monthsAfter_monthsAfter, hreached, toDay_eq_add, toDay_eq_add _ _ (min d.day _)]
  omega

/-! ### The order of dates -/

/-- The next month begins where a month ends. -/
private theorem toDay_firstDay_succ (index : Int) :
    toDay ⟨(index + 1) / 12, ((index + 1) % 12).toNat + 1, 1⟩ =
      toDay ⟨index / 12, (index % 12).toNat + 1, 1⟩ + monthLength (index / 12) ((index % 12).toNat + 1) := by
  have hsucc := daysBeforeMonth_succ (index / 12) ((index % 12).toNat + 1) (by omega) (by omega)
  unfold toDay
  dsimp only
  by_cases h : index % 12 = 11
  · -- December is followed by January of the next year
    have hyear : (index + 1) / 12 = index / 12 + 1 := by omega
    have hmonth : ((index + 1) % 12).toNat = 0 := by omega
    have hdec : (index % 12).toNat = 11 := by omega
    have hall : daysBeforeMonth (index / 12) 13 = if isLeapYear (index / 12) then 366 else 365 :=
      totalDays_monthLengths (index / 12)
    have hnone : daysBeforeMonth (index / 12 + 1) 1 = 0 := rfl
    rw [hdec] at hsucc ⊢
    rw [hyear, hmonth, daysBeforeYear_succ, hnone]
    rw [hall] at hsucc
    split at hsucc <;> rename_i hleap <;> simp only [hleap, if_true, if_false, Bool.false_eq_true] <;> omega
  · have hyear : (index + 1) / 12 = index / 12 := by omega
    have hmonth : ((index + 1) % 12).toNat = (index % 12).toNat + 1 := by omega
    rw [hyear, hmonth, hsucc]
    omega

/-- One month later is at least 28 days later, also where the day is brought down. -/
private theorem toDay_monthsAfter_succ (d : Date) (months : Int) :
    (d.monthsAfter months).toDay + 28 ≤ (d.monthsAfter (months + 1)).toDay := by
  have hindex : 12 * d.year + (d.month - 1) + (months + 1) = 12 * d.year + (d.month - 1) + months + 1 := by omega
  have hfirst := toDay_firstDay_succ (12 * d.year + (d.month - 1) + months)
  have hlen := d.lengthAfter_bounds months
  have hlen' := d.lengthAfter_bounds (months + 1)
  unfold lengthAfter monthsAfter at hlen hlen'
  unfold monthsAfter
  dsimp only at hlen hlen' ⊢
  rw [hindex] at hlen' ⊢
  rw [toDay_eq_add, toDay_eq_add ((12 * d.year + (d.month - 1) + months + 1) / 12), hfirst]
  omega

/-- More months later is at least 28 days later. -/
theorem toDay_monthsAfter_lt (d : Date) {m n : Int} (h : m < n) :
    (d.monthsAfter m).toDay + 28 ≤ (d.monthsAfter n).toDay := by
  obtain ⟨more, rfl⟩ : ∃ more : Nat, n = m + 1 + more := ⟨(n - m - 1).toNat, by omega⟩
  clear h
  induction more with
  | zero => simpa using d.toDay_monthsAfter_succ m
  | succ more ih =>
    have hstep := d.toDay_monthsAfter_succ (m + 1 + more)
    rw [Int.natCast_succ, ← Int.add_assoc]
    omega

theorem year_monthsAfter_mono (d : Date) {m n : Int} (h : m ≤ n) : (d.monthsAfter m).year ≤ (d.monthsAfter n).year := by
  unfold monthsAfter
  dsimp only
  omega

end Date

end CivilTime
