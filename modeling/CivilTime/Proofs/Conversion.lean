import CivilTime.Unit

/-!
# Conversion of durations

Of two fixed units the longer one is a whole number of the shorter one (`DurationUnit.exists_ratio`). Conversion to the shorter
unit is multiplication by that number, brought to the nearest signed 64-bit number (`convertDuration_shorter`), and conversion to
the longer one is division by it towards zero (`convertDuration_longer`). Both keep the order and can be done in steps, because a
number that is brought to the bounds stays there when it is multiplied on. Up to the bounds the result is the exact one
(`nearest_convertDuration`). No such ratio divides 2⁶³, so a conversion to the shorter unit and back loses only what the bounds
cut off, on both sides alike (`convertDuration_laws`).
-/

namespace CivilTime

/-! ### Ranges -/

/-- The number of a range that is nearest to a number. -/
def nearest (low high n : Int) : Int := max low (min high n)

section

variable {low high m n r : Int}

theorem nearest_eq_self (hlow : low ≤ n) (hhigh : n ≤ high) : nearest low high n = n := by
  unfold nearest
  omega

theorem nearest_mono (h : m ≤ n) : nearest low high m ≤ nearest low high n := by
  unfold nearest
  omega

theorem nearest_bounds (h : low ≤ high) : low ≤ nearest low high n ∧ nearest low high n ≤ high := by
  unfold nearest
  omega

/-- A number that is brought into a range around zero stays at the bound when it is multiplied on. -/
theorem nearest_nearest_mul (hlow : low ≤ 0) (hhigh : 0 ≤ high) (hr : 1 ≤ r) :
    nearest low high (nearest low high n * r) = nearest low high (n * r) := by
  have hmul : ∀ {a b : Int}, a ≤ b → a * r ≤ b * r := fun h => Int.mul_le_mul_of_nonneg_right h (by omega)
  by_cases habove : high < n
  · have hn := hmul (Int.le_of_lt habove)
    have hbound : high * 1 ≤ high * r := Int.mul_le_mul_of_nonneg_left hr hhigh
    rw [show nearest low high n = high by unfold nearest; omega]
    unfold nearest
    omega
  · by_cases hbelow : n < low
    · have hn := hmul (Int.le_of_lt hbelow)
      have hbound : low * r ≤ low * 1 := Int.mul_le_mul_of_nonpos_left hlow hr
      rw [show nearest low high n = low by unfold nearest; omega]
      unfold nearest
      omega
    · rw [@nearest_eq_self low high n (by omega) (by omega)]

/-- Division towards zero keeps the order, so it may be applied to the bounds of a range. -/
theorem tdiv_nearest (hr : 0 < r) : (nearest low high n).tdiv r = nearest (low.tdiv r) (high.tdiv r) (n.tdiv r) := by
  have hmono : ∀ {a b : Int}, a ≤ b → a.tdiv r ≤ b.tdiv r := Int.tdiv_le_tdiv hr
  have hmin : (min high n).tdiv r = min (high.tdiv r) (n.tdiv r) := by
    rcases Int.le_total high n with h | h
    · rw [Int.min_eq_left h, Int.min_eq_left (hmono h)]
    · rw [Int.min_eq_right h, Int.min_eq_right (hmono h)]
  unfold nearest
  rw [← hmin]
  rcases Int.le_total low (min high n) with h | h
  · rw [Int.max_eq_right h, Int.max_eq_right (hmono h)]
  · rw [Int.max_eq_left h, Int.max_eq_left (hmono h)]

private theorem tdiv_tdiv_of_nonneg {s : Int} (hn : 0 ≤ n) (hr : 0 ≤ r) : (n.tdiv r).tdiv s = n.tdiv (r * s) := by
  rw [Int.tdiv_eq_ediv_of_nonneg hn, Int.tdiv_eq_ediv_of_nonneg (Int.ediv_nonneg hn hr), Int.tdiv_eq_ediv_of_nonneg hn,
    Int.ediv_ediv_of_nonneg hr]

/-- Division towards zero can be done in steps. -/
theorem tdiv_tdiv {s : Int} (hr : 0 ≤ r) : (n.tdiv r).tdiv s = n.tdiv (r * s) := by
  rcases Int.le_total 0 n with hn | hn
  · exact tdiv_tdiv_of_nonneg hn hr
  · have h := @tdiv_tdiv_of_nonneg (-n) r s (by omega) hr
    rw [Int.neg_tdiv, Int.neg_tdiv, Int.neg_tdiv] at h
    omega

end

/-! ### Saturation -/

/-- Multiplication that saturates brings the product to the nearest signed 64-bit number. -/
theorem saturatingMul_eq_nearest {value ratio : Int} (hr : 0 < ratio) :
    saturatingMul value ratio = nearest int64Min int64Max (value * ratio) := by
  -- the bounds on the value, which come from a division, as bounds on the product
  have habove : int64Max / ratio < value ↔ int64Max < value * ratio := Int.ediv_lt_iff_lt_mul hr
  have hbelow : int64Max / ratio < -value ↔ int64Max < -value * ratio := Int.ediv_lt_iff_lt_mul hr
  rw [Int.neg_mul] at hbelow
  unfold saturatingMul nearest int64Min int64Max at *
  split
  · omega
  · split <;> omega

/-! ### Ratios of units -/

namespace DurationUnit

theorem millis_pos (u : DurationUnit) : 0 < u.millis := by
  cases u <;> decide

theorem eq_of_millis {a b : DurationUnit} (h : a.millis = b.millis) : a = b := by
  revert h
  cases a <;> cases b <;> decide

/-- So many of the shorter unit make the longer one. -/
def IsRatio (long short : DurationUnit) (ratio : Int) : Prop := 1 < ratio ∧ long.millis = ratio * short.millis

/-- A longer unit is a whole number of shorter ones, which does not divide 2⁶³. -/
theorem exists_ratio {long short : DurationUnit} (h : short.millis < long.millis) :
    ∃ ratio, IsRatio long short ratio ∧ int64Min.tdiv ratio = -(int64Max / ratio) := by
  refine ⟨long.millis / short.millis, ?_⟩
  revert h
  unfold IsRatio
  cases long <;> cases short <;> decide

namespace IsRatio

variable {a b c : DurationUnit} {r s : Int}

theorem pos (h : IsRatio a b r) : 0 < r := Int.lt_trans Int.zero_lt_one h.1

theorem trans (h : IsRatio a b r) (h' : IsRatio b c s) : IsRatio a c (r * s) := by
  obtain ⟨hr, ha⟩ := h
  obtain ⟨hs, hb⟩ := h'
  refine ⟨?_, by rw [ha, hb, Int.mul_assoc]⟩
  have hle : 1 * s ≤ r * s := Int.mul_le_mul_of_nonneg_right (Int.le_of_lt hr) (by omega)
  omega

theorem lt (h : IsRatio a b r) : b.millis < a.millis := by
  have hpos := b.millis_pos
  have hlt : 1 * b.millis < r * b.millis := Int.mul_lt_mul_of_pos_right h.1 hpos
  rw [h.2]
  omega

theorem ediv_millis (h : IsRatio a b r) : a.millis / b.millis = r := by
  rw [h.2]
  exact Int.mul_ediv_cancel r (Int.ne_of_gt b.millis_pos)

end IsRatio

/-- Two units are the same, or the second one is a whole number of the first one, if it is not shorter. -/
theorem eq_or_exists_ratio {a b : DurationUnit} (h : a.millis ≤ b.millis) : a = b ∨ ∃ r, IsRatio b a r := by
  rcases Int.lt_or_eq_of_le h with hlt | heq
  · obtain ⟨r, hr, -⟩ := exists_ratio hlt
    exact .inr ⟨r, hr⟩
  · exact .inl (eq_of_millis heq)

end DurationUnit

/-! ### Conversion -/

open DurationUnit (IsRatio)

variable {a b c : DurationUnit} {r v w : Int}

@[simp] theorem convertDuration_self (v : Int) (a : DurationUnit) : convertDuration v a a = v :=
  if_pos rfl

theorem convertDuration_shorter (h : IsRatio a b r) (v : Int) :
    convertDuration v a b = nearest int64Min int64Max (v * r) := by
  have hne : a ≠ b := by
    rintro rfl
    exact absurd h.lt (Int.lt_irrefl _)
  unfold convertDuration
  rw [if_neg hne, if_pos h.lt, h.ediv_millis, saturatingMul_eq_nearest h.pos]

theorem convertDuration_longer (h : IsRatio a b r) (v : Int) : convertDuration v b a = v.tdiv r := by
  have hne : b ≠ a := by
    rintro rfl
    exact absurd h.lt (Int.lt_irrefl _)
  unfold convertDuration
  rw [if_neg hne, if_neg (Int.lt_asymm h.lt), h.ediv_millis]

/-- The ways in which a conversion may go: nothing is to be done, or the target is shorter or longer. -/
theorem convertDuration_cases (a b : DurationUnit) :
    a = b ∨ (∃ r, IsRatio a b r) ∨ ∃ r, IsRatio b a r := by
  rcases Int.le_total a.millis b.millis with h | h
  · exact (DurationUnit.eq_or_exists_ratio h).imp_right .inr
  · exact (DurationUnit.eq_or_exists_ratio h).imp Eq.symm .inl

/-- A longer duration does not become a shorter one. -/
theorem convertDuration_mono (a b : DurationUnit) (h : v ≤ w) : convertDuration v a b ≤ convertDuration w a b := by
  rcases convertDuration_cases a b with rfl | ⟨r, hr⟩ | ⟨r, hr⟩
  · rwa [convertDuration_self, convertDuration_self]
  · rw [convertDuration_shorter hr, convertDuration_shorter hr]
    exact nearest_mono (Int.mul_le_mul_of_nonneg_right h (Int.le_of_lt hr.pos))
  · rw [convertDuration_longer hr, convertDuration_longer hr]
    exact Int.tdiv_le_tdiv hr.pos h

/-! ### Exact conversion -/

/-- A duration in another unit, truncated towards zero, whatever its size. -/
def exactDuration (value : Int) (source target : DurationUnit) : Int :=
  (value * source.millis).tdiv target.millis

theorem exactDuration_millisecond (v : Int) (a : DurationUnit) : exactDuration v a .millisecond = v * a.millis :=
  Int.tdiv_one _

private theorem exactDuration_self (v : Int) (a : DurationUnit) : exactDuration v a a = v :=
  Int.mul_tdiv_cancel v (Int.ne_of_gt a.millis_pos)

private theorem exactDuration_shorter (h : IsRatio a b r) (v : Int) : exactDuration v a b = v * r := by
  unfold exactDuration
  rw [h.2, ← Int.mul_assoc]
  exact Int.mul_tdiv_cancel _ (Int.ne_of_gt b.millis_pos)

private theorem exactDuration_longer (h : IsRatio a b r) (v : Int) : exactDuration v b a = v.tdiv r := by
  unfold exactDuration
  rw [h.2]
  exact Int.mul_tdiv_mul_of_pos_left v r b.millis_pos

/-- Conversion is exact up to the bounds. -/
theorem nearest_convertDuration (v : Int) (a b : DurationUnit) :
    nearest int64Min int64Max (convertDuration v a b) = nearest int64Min int64Max (exactDuration v a b) := by
  rcases convertDuration_cases a b with rfl | ⟨r, hr⟩ | ⟨r, hr⟩
  · rw [convertDuration_self, exactDuration_self]
  · have hbounds := @nearest_bounds int64Min int64Max (v * r) (by decide)
    rw [convertDuration_shorter hr, exactDuration_shorter hr, nearest_eq_self hbounds.1 hbounds.2]
  · rw [convertDuration_longer hr, exactDuration_longer hr]

/-! ### Conversion in steps and back -/

/-- The unit in the middle does not matter on the way to shorter units. -/
private theorem convertDuration_shorter_shorter (hb : b.millis ≤ a.millis) (hc : c.millis ≤ b.millis) (v : Int) :
    convertDuration (convertDuration v a b) b c = convertDuration v a c := by
  rcases DurationUnit.eq_or_exists_ratio hb with rfl | ⟨r, hr⟩
  · rw [convertDuration_self]
  · rcases DurationUnit.eq_or_exists_ratio hc with rfl | ⟨s, hs⟩
    · rw [convertDuration_self]
    · rw [convertDuration_shorter hr, convertDuration_shorter hs, convertDuration_shorter (hr.trans hs),
        nearest_nearest_mul (by decide) (by decide) (Int.le_of_lt hs.1), Int.mul_assoc]

/-- The unit in the middle does not matter on the way to longer units. -/
private theorem convertDuration_longer_longer (hb : a.millis ≤ b.millis) (hc : b.millis ≤ c.millis) (v : Int) :
    convertDuration (convertDuration v a b) b c = convertDuration v a c := by
  rcases DurationUnit.eq_or_exists_ratio hb with rfl | ⟨r, hr⟩
  · rw [convertDuration_self]
  · rcases DurationUnit.eq_or_exists_ratio hc with rfl | ⟨s, hs⟩
    · rw [convertDuration_self]
    · rw [convertDuration_longer hr, convertDuration_longer hs, convertDuration_longer (hs.trans hr),
        tdiv_tdiv (Int.le_of_lt hr.pos), Int.mul_comm]

/-- To a shorter unit and back: what lies beyond the bounds is brought to the last multiple within them. -/
private theorem convertDuration_shorter_back (h : IsRatio a b r) (hmin : int64Min.tdiv r = -(int64Max / r)) (v : Int) :
    convertDuration (convertDuration v a b) b a = nearest (-(int64Max / r)) (int64Max / r) v := by
  have hmax : int64Max.tdiv r = int64Max / r := Int.tdiv_eq_ediv_of_nonneg (by decide)
  rw [convertDuration_shorter h, convertDuration_longer h, tdiv_nearest h.pos, hmin, hmax,
    Int.mul_tdiv_cancel v (Int.ne_of_gt h.pos)]

/-- To a longer unit and back: the remainder is lost. -/
private theorem convertDuration_longer_back (h : IsRatio a b r) (v : Int) :
    convertDuration (convertDuration v b a) a b = nearest int64Min int64Max (v - v.tmod r) := by
  have hparts := Int.tdiv_mul_add_tmod v r
  rw [convertDuration_longer h, convertDuration_shorter h]
  congr 1
  omega

/-- Conversion goes through a unit of a length in between without a difference and keeps the order of durations. From a unit to a
shorter one it multiplies by the ratio and stays within 64 bits; the way back leads to the nearest duration that has a multiple
within them. The way to the longer unit and back loses the remainder. -/
theorem convertDuration_laws :
    (∀ (a b c : DurationUnit) (v : Int),
      a.millis ≤ b.millis ∧ b.millis ≤ c.millis ∨ b.millis ≤ a.millis ∧ c.millis ≤ b.millis →
        convertDuration (convertDuration v a b) b c = convertDuration v a c) ∧
    (∀ (a b : DurationUnit) (v w : Int), v ≤ w → convertDuration v a b ≤ convertDuration w a b) ∧
    ∀ long short : DurationUnit, short.millis < long.millis → ∃ r, long.millis = r * short.millis ∧ ∀ v,
      convertDuration v long short = nearest int64Min int64Max (v * r) ∧
      convertDuration (convertDuration v long short) short long = nearest (-(int64Max / r)) (int64Max / r) v ∧
      convertDuration (convertDuration v short long) long short = nearest int64Min int64Max (v - v.tmod r) := by
  refine ⟨fun a b c v h => ?_, fun a b v w h => convertDuration_mono a b h, fun long short h => ?_⟩
  · rcases h with ⟨hb, hc⟩ | ⟨hb, hc⟩
    · exact convertDuration_longer_longer hb hc v
    · exact convertDuration_shorter_shorter hb hc v
  · obtain ⟨r, hr, hmin⟩ := DurationUnit.exists_ratio h
    exact ⟨r, hr.2, fun v => ⟨convertDuration_shorter hr v, convertDuration_shorter_back hr hmin v,
      convertDuration_longer_back hr v⟩⟩

/-- Of days, 106751991167 are the most that have a number of milliseconds within 64 bits; a day more or less is brought to
them. -/
theorem convertDuration_laws_days :
    convertDuration (convertDuration (-9223372036854775808) .millisecond .hour) .hour .day =
        convertDuration (-9223372036854775808) .millisecond .day ∧
      convertDuration 106751991167 .day .millisecond ≤ convertDuration 106751991168 .day .millisecond ∧
      convertDuration (convertDuration (-106751991168) .day .millisecond) .millisecond .day = -106751991167 := by
  obtain ⟨hsteps, hmono, hratio⟩ := convertDuration_laws
  obtain ⟨r, hr, hlaws⟩ := hratio .day .millisecond (by decide)
  obtain rfl : r = 86400000 := by
    change 86400000 = r * 1 at hr
    omega
  exact ⟨hsteps .millisecond .hour .day _ (by decide), hmono .day .millisecond _ _ (by decide),
    (hlaws (-106751991168)).2.1.trans (by decide)⟩

end CivilTime
