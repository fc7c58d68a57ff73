import CivilTime.Calendar.DayNumber
import CivilTime.Zone.History

/-!
# Seasons

A closing rule swings between two observances, a lower and a higher offset: every year its clocks go forth once and back
once (`Swing`), also where the season is the time of the lower offset, and trivially where nothing ever changes
(`ClosingRule.Separated.exists_swing`). The changes lie far from the turn of the year, so that what the rule gives can be
read off from the changes of any year nearby (`Swing.atUtc_near`, `Swing.atLocal_near`). It follows that a local time
tells what was observed when it was shown (`Swing.reads`), that the second pass repeats local times of the higher offset
(`Swing.repeats`), and that a local time that was never shown lies in the hour that is skipped (`Swing.skips`).
-/

namespace CivilTime

/-! ### Years of seconds -/

/-- The second at which a year begins. -/
def newYear (year : Int) : Int := 86400 * Date.toDay ⟨year, 1, 1⟩

private theorem newYear_eq (year : Int) : newYear year = 86400 * (daysBeforeYear year - daysBeforeEpoch) := by
  simp [newYear, Date.toDay, daysBeforeMonth, totalDays]

theorem newYear_add_le (year : Int) : newYear year + 31536000 ≤ newYear (year + 1) := by
  have h := daysBeforeYear_succ year
  rw [newYear_eq, newYear_eq]
  split at h <;> omega

theorem newYear_le {a b : Int} (h : a ≤ b) : newYear a ≤ newYear b := by
  have := daysBeforeYear_le h
  rw [newYear_eq, newYear_eq]
  omega

theorem yearOfSecond_bounds (s : Int) : newYear (yearOfSecond s) ≤ s ∧ s < newYear (yearOfSecond s + 1) := by
  have h1 := daysBeforeYear_yearOfDays_le (s / 86400 + daysBeforeEpoch)
  have h2 := lt_daysBeforeYear_yearOfDays_succ (s / 86400 + daysBeforeEpoch)
  have e : yearOfSecond s = yearOfDays (s / 86400 + daysBeforeEpoch) := rfl
  rw [newYear_eq, newYear_eq, e]
  omega

theorem yearOfSecond_eq {s year : Int} (h : newYear year ≤ s) (h' : s < newYear (year + 1)) :
    yearOfSecond s = year := by
  rw [newYear_eq] at h h'
  exact @yearOfDays_eq (s / 86400 + daysBeforeEpoch) year (by omega) (by omega)

/-- Near a year every second lies in that year or in a neighbouring one. -/
private theorem yearOfSecond_near {year s : Int} (hs : newYear year - 259200 ≤ s)
    (hs' : s ≤ newYear (year + 1) + 259200) :
    yearOfSecond s = year - 1 ∨ yearOfSecond s = year ∨ yearOfSecond s = year + 1 := by
  obtain ⟨hb, hb'⟩ := yearOfSecond_bounds s
  have hlong := newYear_add_le (year - 1)
  rw [show year - 1 + 1 = year by omega] at hlong
  have hlong' := newYear_add_le (year + 1)
  by_cases lt : yearOfSecond s < year - 1
  · have := newYear_le (show yearOfSecond s + 1 ≤ year - 1 by omega)
    omega
  · by_cases gt : year + 1 < yearOfSecond s
    · have := newYear_le (show year + 1 + 1 ≤ yearOfSecond s by omega)
      omega
    · omega

theorem inSeason_iff {start finish s : Int} :
    inSeason start finish s = true ↔
      (start < finish ∧ start ≤ s ∧ s < finish) ∨ (finish ≤ start ∧ (s < finish ∨ start ≤ s)) := by
  unfold inSeason
  split <;> simp <;> omega

/-! ### Rules as swings -/

/-- A closing rule under which the clocks go forth from `low` to `high` at the UTC second `forth year` of every year, and
back at `back year`. Both lie six days or more from the turn of the year, and further apart than twice the hour that is
gained and lost. -/
structure Swing (rule : ClosingRule) (low high : Observance) (forth back : Int → Int) : Prop where
  le : low.offset ≤ high.offset
  offset_lt : low.offset.natAbs < 86400 ∧ high.offset.natAbs < 86400
  atUtc : ∀ s, rule.atUtc s =
    (if inSeason (forth (yearOfSecond s)) (back (yearOfSecond s)) s then high else low,
      decide (back (yearOfSecond s) ≤ s ∧ s < back (yearOfSecond s) + (high.offset - low.offset)))
  atLocal : ∀ secondPass l, rule.atLocal secondPass l =
    if inSeason (forth (yearOfSecond l) + (if secondPass then low.offset else high.offset))
      (back (yearOfSecond l) + (if secondPass then low.offset else high.offset)) l then high else low
  forth_inside : ∀ year, newYear year + 518400 ≤ forth year ∧ forth year + 518400 ≤ newYear (year + 1)
  back_inside : ∀ year, newYear year + 518400 ≤ back year ∧ back year + 518400 ≤ newYear (year + 1)
  apart : (∀ year, 2 * (high.offset - low.offset) < back year - forth year) ∨
    (∀ year, 2 * (high.offset - low.offset) < forth year - back year)

namespace Swing

variable {rule : ClosingRule} {low high : Observance} {forth back : Int → Int}

theorem order (h : Swing rule low high forth back) (year : Int) :
    2 * (high.offset - low.offset) < back year - forth year ∨
      2 * (high.offset - low.offset) < forth year - back year :=
  h.apart.imp (· year) (· year)

theorem atUtc_eq_or (h : Swing rule low high forth back) (s : Int) :
    (rule.atUtc s).1 = low ∨ (rule.atUtc s).1 = high := by
  rw [h.atUtc]
  dsimp only
  split
  · exact .inr rfl
  · exact .inl rfl

/-- Near a year the season does not depend on which year's changes it is measured by. -/
private theorem inSeason_near (h : Swing rule low high forth back) {year s a : Int} (ha : a.natAbs < 86400)
    (hs : newYear year - 259200 ≤ s) (hs' : s ≤ newYear (year + 1) + 259200) :
    inSeason (forth (yearOfSecond s) + a) (back (yearOfSecond s) + a) s =
      inSeason (forth year + a) (back year + a) s := by
  obtain ⟨hb, hb'⟩ := yearOfSecond_bounds s
  have hcase := yearOfSecond_near hs hs'
  generalize yearOfSecond s = y at *
  have horder : forth y < back y ∧ forth year < back year ∨ back y < forth y ∧ back year < forth year := by
    have hle := h.le
    rcases h.apart with hap | hap
    · have := hap y
      have := hap year
      omega
    · have := hap y
      have := hap year
      omega
  have hf := h.forth_inside year
  have hk := h.back_inside year
  have hf' := h.forth_inside y
  have hk' := h.back_inside y
  rw [Bool.eq_iff_iff, inSeason_iff, inSeason_iff]
  rcases hcase with rfl | rfl | rfl
  · rw [show year - 1 + 1 = year by omega] at *
    omega
  · rfl
  · omega

/-- Near a year the rule can be read off from the changes of that year. -/
theorem atUtc_near (h : Swing rule low high forth back) {y s : Int} (hs : newYear y - 259200 ≤ s)
    (hs' : s ≤ newYear (y + 1) + 259200) :
    rule.atUtc s = (if inSeason (forth y) (back y) s then high else low,
      decide (back y ≤ s ∧ s < back y + (high.offset - low.offset))) := by
  have e := h.inSeason_near (a := 0) (by decide) hs hs'
  simp only [Int.add_zero] at e
  rw [h.atUtc, e, Prod.mk.injEq, decide_eq_decide]
  obtain ⟨hb, hb'⟩ := yearOfSecond_bounds s
  have hoff := h.offset_lt
  have hback := h.back_inside y
  have hback' := h.back_inside (yearOfSecond s)
  have hcase := yearOfSecond_near hs hs'
  generalize yearOfSecond s = year at *
  refine ⟨rfl, ?_⟩
  rcases hcase with rfl | rfl | rfl
  · rw [show y - 1 + 1 = y by omega] at *
    omega
  · rfl
  · omega

theorem atLocal_near (h : Swing rule low high forth back) {y l : Int} {secondPass : Bool}
    (hl : newYear y - 259200 ≤ l) (hl' : l ≤ newYear (y + 1) + 259200) :
    rule.atLocal secondPass l = if inSeason (forth y + (if secondPass then low.offset else high.offset))
      (back y + (if secondPass then low.offset else high.offset)) l then high else low := by
  rw [h.atLocal, h.inSeason_near _ hl hl']
  have := h.offset_lt
  split <;> omega

/-- The local time that is shown at a second tells what is observed. -/
theorem reads (h : Swing rule low high forth back) (s : Int) :
    rule.atLocal (rule.atUtc s).2 (s + (rule.atUtc s).1.offset) = (rule.atUtc s).1 := by
  obtain ⟨hb, hb'⟩ := yearOfSecond_bounds s
  have hoff := h.offset_lt
  have hle := h.le
  have horder := h.order (yearOfSecond s)
  rw [h.atUtc]
  generalize yearOfSecond s = year at *
  by_cases hin : inSeason (forth year) (back year) s = true
  · rw [if_pos hin]
    dsimp only
    rw [h.atLocal_near (y := year) (by omega) (by omega), if_pos]
    rw [inSeason_iff] at hin
    rw [decide_eq_false (by omega), if_neg (by decide), inSeason_iff]
    omega
  · rw [if_neg hin]
    dsimp only
    rw [h.atLocal_near (y := year) (by omega) (by omega), if_neg]
    rw [inSeason_iff] at hin ⊢
    by_cases hp : back year ≤ s ∧ s < back year + (high.offset - low.offset)
    · rw [decide_eq_true hp, if_pos rfl]
      omega
    · rw [decide_eq_false hp, if_neg (by decide)]
      omega

/-- A second pass is read rightly also where the rule knows of none, if what is observed stays long enough. -/
theorem reads_second (h : Swing rule low high forth back) {s : Int}
    (hs : (rule.atUtc (s + (high.offset - low.offset))).1 = (rule.atUtc s).1) :
    rule.atLocal true (s + (rule.atUtc s).1.offset) = (rule.atUtc s).1 := by
  obtain ⟨hb, hb'⟩ := yearOfSecond_bounds s
  have hoff := h.offset_lt
  have hle := h.le
  have horder := h.order (yearOfSecond s)
  rw [h.atUtc_near (s := s + _) (y := yearOfSecond s) (by omega) (by omega), h.atUtc] at hs
  rw [h.atUtc]
  generalize yearOfSecond s = year at *
  dsimp only at hs ⊢
  by_cases hin : inSeason (forth year) (back year) s = true
  · rw [if_pos hin] at hs ⊢
    rw [h.atLocal_near (y := year) (by omega) (by omega), if_pos rfl]
    by_cases hin' : inSeason (forth year) (back year) (s + (high.offset - low.offset)) = true
    · rw [if_pos]
      rw [inSeason_iff] at hin hin' ⊢
      omega
    · rw [if_neg hin'] at hs
      rw [hs, ite_self]
  · rw [if_neg hin, h.atLocal_near (y := year) (by omega) (by omega), if_pos rfl, if_neg]
    rw [inSeason_iff] at hin ⊢
    omega

/-- On its second pass a local time was shown before, when the clocks were not yet put back. -/
theorem repeats (h : Swing rule low high forth back) {s : Int} (hs : (rule.atUtc s).2 = true) :
    ∃ u ≤ s, s < u + (high.offset - low.offset) ∧ (rule.atUtc (u - 1)).1 = high ∧ (rule.atUtc u).1 = low ∧
      (rule.atUtc s).1 = low ∧ rule.atUtc (s - (high.offset - low.offset)) = (high, false) := by
  obtain ⟨hb, hb'⟩ := yearOfSecond_bounds s
  have hoff := h.offset_lt
  have hle := h.le
  have horder := h.order (yearOfSecond s)
  have hback := h.back_inside (yearOfSecond s)
  rw [h.atUtc] at hs
  generalize yearOfSecond s = year at *
  simp only [decide_eq_true_eq] at hs
  refine ⟨back year, hs.1, hs.2, ?_⟩
  rw [h.atUtc_near (y := year) (by omega) (by omega), h.atUtc_near (y := year) (by omega) (by omega),
    h.atUtc_near (y := year) (by omega) (by omega), h.atUtc_near (y := year) (by omega) (by omega)]
  refine ⟨if_pos ?_, if_neg ?_, if_neg ?_, ?_⟩
  · rw [inSeason_iff]; omega
  · rw [inSeason_iff]; omega
  · rw [inSeason_iff]; omega
  · rw [if_pos (by rw [inSeason_iff]; omega), decide_eq_false (by omega)]

/-- A local time read on its first pass was shown at the second that is found, or the clocks are put forth over it. -/
theorem skips (h : Swing rule low high forth back) (l : Int) :
    rule.atUtc (l - (rule.atLocal false l).offset) = (rule.atLocal false l, false) ∨
      rule.atLocal false l = low ∧ rule.atUtc (l - low.offset) = (high, false) ∧
        ∃ u, (rule.atUtc (u - 1)).1 = low ∧ (rule.atUtc u).1 = high ∧ u + low.offset ≤ l ∧ l < u + high.offset := by
  obtain ⟨hb, hb'⟩ := yearOfSecond_bounds l
  have hoff := h.offset_lt
  have hle := h.le
  have hforth := h.forth_inside (yearOfSecond l)
  have hback := h.back_inside (yearOfSecond l)
  have horder := h.order (yearOfSecond l)
  rw [h.atLocal]
  generalize yearOfSecond l = year at *
  simp only [Bool.false_eq_true, if_false]
  by_cases hin : inSeason (forth year + high.offset) (back year + high.offset) l = true
  · rw [if_pos hin]
    left
    rw [inSeason_iff] at hin
    rw [h.atUtc_near (y := year) (by omega) (by omega), if_pos (by rw [inSeason_iff]; omega),
      decide_eq_false (by omega)]
  · rw [if_neg hin]
    rw [inSeason_iff] at hin
    rw [h.atUtc_near (y := year) (by omega) (by omega)]
    -- off season by the local clock, in season at the second that is found: the clocks are put forth over `l`
    by_cases hin' : inSeason (forth year) (back year) (l - low.offset) = true
    · right
      rw [if_pos hin']
      rw [inSeason_iff] at hin'
      refine ⟨rfl, ?_, forth year, ?_⟩
      · rw [decide_eq_false (by omega)]
      · rw [h.atUtc_near (y := year) (by omega) (by omega), h.atUtc_near (y := year) (by omega) (by omega)]
        refine ⟨if_neg ?_, if_pos ?_, by omega, by omega⟩
        · rw [inSeason_iff]; omega
        · rw [inSeason_iff]; omega
    · left
      rw [if_neg hin']
      rw [inSeason_iff] at hin'
      rw [decide_eq_false (by omega)]

/-- Putting the clocks forth leaves everything that was shown behind, and nothing is shown again. -/
theorem forth_order (h : Swing rule low high forth back) {u : Int}
    (hu : (rule.atUtc (u - 1)).1.offset < (rule.atUtc u).1.offset) :
    (∀ s < u, s + (rule.atUtc s).1.offset < u + (rule.atUtc (u - 1)).1.offset) ∧
      ∀ s, u ≤ s → u + (rule.atUtc u).1.offset ≤ s + (rule.atUtc s).1.offset := by
  obtain ⟨hb, hb'⟩ := yearOfSecond_bounds u
  have hoff := h.offset_lt
  have hle := h.le
  have horder := h.order (yearOfSecond u)
  have hforth := h.forth_inside (yearOfSecond u)
  have hback := h.back_inside (yearOfSecond u)
  have hnear := fun s => @atUtc_near _ _ _ _ _ h (yearOfSecond u) s
  have htwo := h.atUtc_eq_or
  generalize yearOfSecond u = year at *
  rw [hnear u (by omega) (by omega), hnear (u - 1) (by omega) (by omega)] at hu ⊢
  -- the only change at which the offset grows
  have heq : u = forth year ∧ inSeason (forth year) (back year) u = true ∧
      ¬inSeason (forth year) (back year) (u - 1) = true := by
    by_cases h1 : inSeason (forth year) (back year) u = true
    · by_cases h2 : inSeason (forth year) (back year) (u - 1) = true
      · rw [if_pos h1, if_pos h2] at hu
        exact absurd hu (Int.lt_irrefl _)
      · refine ⟨?_, h1, h2⟩
        rw [inSeason_iff] at h1 h2
        omega
    · rw [if_neg h1] at hu
      dsimp only at hu
      split at hu <;> omega
  obtain ⟨he, h1, h2⟩ := heq
  rw [if_pos h1, if_neg h2]
  dsimp only
  -- far from the change the two offsets bound what is shown, near it the changes of the year tell
  refine ⟨fun s hs => ?_, fun s hs => ?_⟩
  · rcases htwo s with e | e
    · rw [e]
      omega
    · by_cases hfar : s < u - 172800
      · rw [e]
        omega
      · rw [hnear s (by omega) (by omega)]
        dsimp only
        split
        · rename_i hin
          rw [inSeason_iff] at hin
          omega
        · omega
  · rcases htwo s with e | e
    · by_cases hfar : u + 172800 < s
      · rw [e]
        omega
      · rw [hnear s (by omega) (by omega)]
        dsimp only
        split
        · omega
        · rename_i hin
          rw [inSeason_iff] at hin
          omega
    · rw [e]
      omega

end Swing

/-! ### Separated rules -/

/-- The changes of a rule with two observances lie a week or more from the turn of the year, always in the same order, and
further apart than the sum of the two changes of the offset. -/
structure SeasonsSeparated (standard season : Observance) (start finish : YearlyTime) : Prop where
  standard_lt : standard.offset.natAbs < 86400
  season_lt : season.offset.natAbs < 86400
  start_inside : ∀ year, newYear year + 604800 ≤ start.second year ∧ start.second year + 604800 ≤ newYear (year + 1)
  finish_inside : ∀ year,
    newYear year + 604800 ≤ finish.second year ∧ finish.second year + 604800 ≤ newYear (year + 1)
  apart : (∀ year, 2 * (season.offset - standard.offset).natAbs <
      (finish.second year - season.offset) - (start.second year - standard.offset)) ∨
    (∀ year, 2 * (season.offset - standard.offset).natAbs <
      (start.second year - standard.offset) - (finish.second year - season.offset))

/-- The rule keeps its changes apart from each other and from the turn of the year. -/
def ClosingRule.Separated : ClosingRule → Prop
  | .steady observance => observance.offset.natAbs < 86400
  | .seasonal standard season start finish => SeasonsSeparated standard season start finish

/-- The size of the changes of a rule. -/
def ClosingRule.swing : ClosingRule → Nat
  | .steady _ => 0
  | .seasonal standard season _ _ => (season.offset - standard.offset).natAbs

private theorem swing_steady {observance : Observance} (h : observance.offset.natAbs < 86400) :
    Swing (.steady observance) observance observance (newYear · + 8640000) (newYear · + 17280000) where
  le := Int.le_refl _
  offset_lt := ⟨h, h⟩
  atUtc s := by
    rw [ite_self, decide_eq_false (by omega)]
    rfl
  atLocal _ l := by
    rw [ite_self]
    rfl
  forth_inside year := by
    have := newYear_add_le year
    omega
  back_inside year := by
    have := newYear_add_le year
    omega
  apart := .inl fun year => by omega

variable {standard season : Observance} {start finish : YearlyTime}

theorem SeasonsSeparated.start_ne_finish (h : SeasonsSeparated standard season start finish) (year : Int) :
    start.second year - standard.offset ≠ finish.second year - season.offset := by
  rcases h.apart with ha | ha
  · have := ha year
    omega
  · have := ha year
    omega

private theorem swing_of_le (h : SeasonsSeparated standard season start finish)
    (hle : standard.offset ≤ season.offset) :
    Swing (.seasonal standard season start finish) standard season (start.second · - standard.offset)
      (finish.second · - season.offset) where
  le := hle
  offset_lt := ⟨h.standard_lt, h.season_lt⟩
  atUtc s := by
    rw [ClosingRule.atUtc, Prod.mk.injEq]
    refine ⟨rfl, ?_⟩
    rw [Bool.eq_iff_iff]
    simp only [Bool.and_eq_true, decide_eq_true_eq]
    split <;> omega
  atLocal secondPass l := by
    have hg : decide (0 ≤ season.offset - standard.offset) = true := decide_eq_true (by omega)
    generalize hy : yearOfSecond l = year
    cases secondPass with
    | true =>
      simp only [ClosingRule.atLocal, hg, hy, beq_self_eq_true, if_true]
      rw [Int.sub_add_cancel, show finish.second year - season.offset + standard.offset =
        finish.second year - (season.offset - standard.offset) by omega]
    | false =>
      simp only [ClosingRule.atLocal, hg, hy, Bool.false_beq, Bool.not_true, Bool.false_eq_true, if_false]
      rw [Int.sub_add_cancel, show start.second year - standard.offset + season.offset =
        start.second year + (season.offset - standard.offset) by omega]
  forth_inside year := by
    have := h.start_inside year
    have := h.standard_lt
    omega
  back_inside year := by
    have := h.finish_inside year
    have := h.season_lt
    omega
  apart := by
    refine h.apart.imp (fun ha year => ?_) (fun ha year => ?_)
    · have := ha year
      omega
    · have := ha year
      omega

private theorem inSeason_swap {start finish s : Int} (h : start ≠ finish) :
    inSeason finish start s = !inSeason start finish s := by
  rw [Bool.eq_iff_iff, Bool.not_eq_true', ← Bool.not_eq_true, inSeason_iff, inSeason_iff]
  omega

/-- Where the season has the lower offset, its start puts the clocks back. -/
private theorem swing_of_lt (h : SeasonsSeparated standard season start finish)
    (hlt : season.offset < standard.offset) :
    Swing (.seasonal standard season start finish) season standard (finish.second · - season.offset)
      (start.second · - standard.offset) where
  le := by omega
  offset_lt := ⟨h.season_lt, h.standard_lt⟩
  atUtc s := by
    have hne := h.start_ne_finish
    rw [ClosingRule.atUtc, Prod.mk.injEq]
    refine ⟨?_, ?_⟩
    · rw [inSeason_swap (hne _)]
      cases inSeason (start.second (yearOfSecond s) - standard.offset)
        (finish.second (yearOfSecond s) - season.offset) s <;> rfl
    · rw [Bool.eq_iff_iff]
      simp only [Bool.and_eq_true, decide_eq_true_eq]
      rw [if_neg (by omega)]
      omega
  atLocal secondPass l := by
    have hg : decide (0 ≤ season.offset - standard.offset) = false := decide_eq_false (by omega)
    generalize hy : yearOfSecond l = year
    cases secondPass with
    | true =>
      have hne := h.start_ne_finish year
      rw [inSeason_swap (by omega)]
      simp only [ClosingRule.atLocal, hg, hy, Bool.true_beq, Bool.false_eq_true, if_false, if_true]
      rw [Int.sub_add_cancel, show start.second year - standard.offset + season.offset =
        start.second year + (season.offset - standard.offset) by omega]
      cases inSeason (start.second year + (season.offset - standard.offset)) (finish.second year) l <;> rfl
    | false =>
      have hne := h.start_ne_finish year
      rw [inSeason_swap (by simp only [Bool.false_eq_true, if_false]; omega)]
      simp only [ClosingRule.atLocal, hg, hy, beq_self_eq_true, Bool.false_eq_true, if_false, if_true]
      rw [Int.sub_add_cancel, show finish.second year - season.offset + standard.offset =
        finish.second year - (season.offset - standard.offset) by omega]
      cases inSeason (start.second year) (finish.second year - (season.offset - standard.offset)) l <;> rfl
  forth_inside year := by
    have := h.finish_inside year
    have := h.season_lt
    omega
  back_inside year := by
    have := h.start_inside year
    have := h.standard_lt
    omega
  apart := by
    refine h.apart.symm.imp (fun ha year => ?_) (fun ha year => ?_)
    · have := ha year
      omega
    · have := ha year
      omega

theorem SeasonsSeparated.atUtc_near (h : SeasonsSeparated standard season start finish) {y s : Int}
    (hs : newYear y - 259200 ≤ s) (hs' : s ≤ newYear (y + 1) + 259200) :
    ((ClosingRule.seasonal standard season start finish).atUtc s).1 =
      if inSeason (start.second y - standard.offset) (finish.second y - season.offset) s then season else standard := by
  by_cases hle : standard.offset ≤ season.offset
  · rw [(swing_of_le h hle).atUtc_near hs hs']
  · rw [(swing_of_lt h (by omega)).atUtc_near hs hs', inSeason_swap (h.start_ne_finish y)]
    cases inSeason (start.second y - standard.offset) (finish.second y - season.offset) s <;> rfl

/-- A separated rule swings between two observances by the size of its changes. -/
theorem ClosingRule.Separated.exists_swing {rule : ClosingRule} (h : rule.Separated) :
    ∃ low high forth back, Swing rule low high forth back ∧ high.offset - low.offset = rule.swing := by
  cases rule with
  | steady observance =>
    exact ⟨_, _, _, _, swing_steady h, Int.sub_self _⟩
  | seasonal standard season start finish =>
    by_cases hle : standard.offset ≤ season.offset
    · refine ⟨_, _, _, _, swing_of_le h hle, ?_⟩
      simp only [swing]
      omega
    · refine ⟨_, _, _, _, swing_of_lt h (by omega), ?_⟩
      simp only [swing]
      omega

end CivilTime
