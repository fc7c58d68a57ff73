import CivilTime.Proofs.Months
import CivilTime.Proofs.Zone.Regions

/-!
# The listed regions

The clocks of the listed regions are sound (`Database.isSound_listed`): their changes are separated, and their offsets bounded.
The listed changes are compared one by one. A closing rule is compared for all years at once, by the months in which its
changes lie (`YearlyTime.second_bounds`), and where it takes over, by the changes of that one year
(`ClosingRule.continues_of_clear`).
-/

namespace CivilTime

/-! ### Yearly times -/

/-- The least number of seconds from the beginning of a year to a yearly time. -/
def YearlyTime.earliest (t : YearlyTime) : Int := 86400 * daysBeforeMonth 1 t.month + t.time

/-- The greatest number of seconds from the beginning of a year to a yearly time: 30 days and a leap day later. -/
def YearlyTime.latest (t : YearlyTime) : Int := t.earliest + 86400 * 31

private theorem daysBeforeMonth_bounds (year : Int) (month : Nat) :
    daysBeforeMonth 1 month ≤ daysBeforeMonth year month ∧ daysBeforeMonth year month ≤ daysBeforeMonth 1 month + 1 := by
  have hlen := length_monthLengths year
  by_cases hm : month - 1 < 12
  · unfold daysBeforeMonth monthLengths monthLength
    rw [show isLeapYear 1 = false by decide]
    generalize month - 1 = n at hm
    cases isLeapYear year with
    | false => omega
    | true =>
      have : n ∈ List.range 12 := List.mem_range.2 hm
      revert this n
      decide
  · unfold daysBeforeMonth
    have hlen' := length_monthLengths 1
    rw [List.take_of_length_le (by omega), List.take_of_length_le (by omega), totalDays_monthLengths, totalDays_monthLengths,
      show isLeapYear 1 = false by decide]
    cases isLeapYear year <;> decide

private theorem YearlyTime.day_bounds {t : YearlyTime} (h : t.week ≤ 5) (year : Int) :
    1 ≤ t.day year ∧ t.day year ≤ 31 := by
  have := monthLength_bounds year t.month
  unfold YearlyTime.day
  dsimp only
  split <;> omega

theorem YearlyTime.second_bounds {t : YearlyTime} (h : t.week ≤ 5) (year : Int) :
    newYear year + t.earliest ≤ t.second year ∧ t.second year ≤ newYear year + t.latest := by
  have hday := YearlyTime.day_bounds h year
  have hmonth := daysBeforeMonth_bounds year t.month
  have hone : daysBeforeMonth year 1 = 0 := rfl
  unfold latest earliest YearlyTime.second newYear Date.toDay
  simp only [hone]
  omega

/-! ### Checks -/

/-- The yearly time lies a week or more from the turn of every year. -/
def YearlyTime.isInside (t : YearlyTime) : Bool :=
  t.week ≤ 5 && 604800 ≤ t.earliest && t.latest + 604800 ≤ 31536000

/-- The rule is separated, as far as the months tell. -/
def ClosingRule.isSeparated : ClosingRule → Bool
  | .steady observance => observance.offset.natAbs < 86400
  | .seasonal standard season start finish =>
    standard.offset.natAbs < 86400 && season.offset.natAbs < 86400 && start.isInside && finish.isInside &&
      (2 * (season.offset - standard.offset).natAbs <
          (finish.earliest - season.offset) - (start.latest - standard.offset) ||
        2 * (season.offset - standard.offset).natAbs <
          (start.earliest - standard.offset) - (finish.latest - season.offset))

theorem ClosingRule.separated_of_isSeparated {rule : ClosingRule} (h : rule.isSeparated = true) : rule.Separated := by
  cases rule with
  | steady observance =>
    simp only [isSeparated, decide_eq_true_eq] at h
    exact h
  | seasonal standard season start finish =>
    simp only [isSeparated, YearlyTime.isInside, Bool.and_eq_true, Bool.or_eq_true, decide_eq_true_eq] at h
    obtain ⟨⟨⟨⟨h1, h2⟩, ⟨hs1, hs2⟩, hs3⟩, ⟨hf1, hf2⟩, hf3⟩, hap⟩ := h
    have hs := fun year => YearlyTime.second_bounds hs1 year
    have hf := fun year => YearlyTime.second_bounds hf1 year
    refine ⟨h1, h2, fun year => ?_, fun year => ?_, ?_⟩
    · have := hs year
      have := newYear_add_le year
      omega
    · have := hf year
      have := newYear_add_le year
      omega
    · refine hap.imp (fun hap year => ?_) (fun hap year => ?_)
      · have := hs year
        have := hf year
        omega
      · have := hs year
        have := hf year
        omega

/-- There is no change at `change` after the second `s` and up to `t`. -/
def isClear (change s t : Int) : Bool := change ≤ s || t < change

/-- The rule goes on from the last listed change, as far as its changes in that year tell. -/
def ClosingRule.continues (rule : ClosingRule) (previous : Observance) (last : Change) : Bool :=
  match rule with
  | .steady observance => observance = last.observance
  | .seasonal standard season start finish =>
    let year := yearOfSecond last.second
    let swing := (season.offset - standard.offset).natAbs
    let most := max previous.offset last.observance.offset
    let clear (s t : Int) : Bool :=
      isClear (start.second year - standard.offset) s t && isClear (finish.second year - season.offset) s t
    last.size previous ≤ 86400 &&
      ((ClosingRule.seasonal standard season start finish).atUtc last.second).1 = last.observance &&
      clear last.second (last.second + last.size previous + swing) &&
      ((standard.offset ≤ most && season.offset ≤ most) || clear (last.second - swing) last.second)

private theorem inSeason_of_isClear {start finish s t : Int} (hst : s ≤ t) (hs : isClear start s t = true)
    (hf : isClear finish s t = true) : inSeason start finish t = inSeason start finish s := by
  simp only [isClear, Bool.or_eq_true, decide_eq_true_eq] at hs hf
  rw [Bool.eq_iff_iff, inSeason_iff, inSeason_iff]
  omega

private theorem isClear_mono {change s t s' t' : Int} (h : isClear change s t = true) (hs : s ≤ s') (ht : t' ≤ t) :
    isClear change s' t' = true := by
  simp only [isClear, Bool.or_eq_true, decide_eq_true_eq] at h ⊢
  omega

theorem ClosingRule.continues_of_clear {rule : ClosingRule} {previous : Observance} {last : Change}
    (hsep : rule.Separated) (h : rule.continues previous last = true) : rule.Continues previous last := by
  cases rule with
  | steady observance =>
    simp only [continues, decide_eq_true_eq] at h
    refine ⟨fun s _ _ => h, fun s _ _ => ?_⟩
    rw [← h]
    exact Int.le_max_right _ _
  | seasonal standard season start finish =>
    simp only [continues, Bool.and_eq_true, Bool.or_eq_true, decide_eq_true_eq] at h
    obtain ⟨⟨⟨hsize, hobs⟩, hsa, hfa⟩, hbefore⟩ := h
    have hstandard := hsep.standard_lt
    have hseason := hsep.season_lt
    obtain ⟨hb, hb'⟩ := yearOfSecond_bounds last.second
    have hsame : ∀ s t, newYear (yearOfSecond last.second) - 259200 ≤ s → s ≤ t →
        t ≤ newYear (yearOfSecond last.second + 1) + 259200 →
        isClear (start.second (yearOfSecond last.second) - standard.offset) s t = true →
        isClear (finish.second (yearOfSecond last.second) - season.offset) s t = true →
        ((ClosingRule.seasonal standard season start finish).atUtc t).1 =
          ((ClosingRule.seasonal standard season start finish).atUtc s).1 := by
      intro s t hs hst ht hcs hcf
      rw [hsep.atUtc_near (by omega) ht, hsep.atUtc_near hs (by omega), inSeason_of_isClear hst hcs hcf]
    refine ⟨fun s hs hs' => ?_, fun s hs hs' => ?_⟩
    · simp only [swing] at hs'
      rw [hsame last.second s (by omega) hs (by omega) (isClear_mono hsa (by omega) (by omega))
        (isClear_mono hfa (by omega) (by omega)), hobs]
    · simp only [swing] at hs
      rcases hbefore with ⟨h1, h2⟩ | ⟨hcs, hcf⟩
      · simp only [atUtc]
        split
        · exact h2
        · exact h1
      · rw [← hsame s last.second (by omega) (by omega) (by omega)
          (isClear_mono hcs (by omega) (by omega)) (isClear_mono hcf (by omega) (by omega)), hobs]
        exact Int.le_max_right _ _

/-- The changes are separated, one by one. -/
def areSeparated (rule : ClosingRule) : Observance → Change → List Change → Bool
  | previous, c, [] => rule.continues previous c
  | previous, c, next :: rest =>
    c.second + c.size previous + next.size c.observance < next.second && areSeparated rule c.observance next rest

theorem changesSeparated_of_areSeparated {rule : ClosingRule} (hsep : rule.Separated) {previous : Observance}
    {c : Change} {changes : List Change} (h : areSeparated rule previous c changes = true) :
    ChangesSeparated rule previous c changes := by
  induction changes generalizing previous c with
  | nil => exact ClosingRule.continues_of_clear hsep h
  | cons next rest ih =>
    simp only [areSeparated, Bool.and_eq_true, decide_eq_true_eq] at h
    exact ⟨h.1, ih h.2⟩

/-- The rule observes what was observed first, if it observes one thing throughout. -/
def ClosingRule.isSteadyAs (first : Observance) : ClosingRule → Bool
  | .steady observance => observance = first
  | .seasonal .. => true

/-- The history is separated, as far as these checks tell. -/
def History.isSeparated (h : History) : Bool :=
  h.rule.isSeparated && match h.changes with
    | [] => h.rule.isSteadyAs h.first
    | c :: rest => areSeparated h.rule h.first c rest

theorem History.separated_of_isSeparated {h : History} (hs : h.isSeparated = true) : h.Separated := by
  simp only [isSeparated, Bool.and_eq_true] at hs
  have hrule := ClosingRule.separated_of_isSeparated hs.1
  refine ⟨hrule, ?_⟩
  cases hc : h.changes with
  | nil =>
    intro observance hsteady
    have := hs.2
    rw [hc, hsteady] at this
    exact of_decide_eq_true this
  | cons c rest =>
    have := hs.2
    rw [hc] at this
    exact changesSeparated_of_areSeparated hrule this

/-! ### The list -/

namespace Database

theorem mem_listedRegions {name : String} {history : History} (h : listed.history? name = some history) :
    (name, history) ∈ listedRegions :=
  mem_of_lookup h

/-- What is checked of every listed region holds of those that are found. -/
theorem of_all_listedRegions {check : String × History → Bool} (h : listedRegions.all check = true) {name : String}
    {history : History} (hn : listed.history? name = some history) : check (name, history) = true :=
  List.all_eq_true.1 h _ (mem_listedRegions hn)

theorem isSound_listed : listed.IsSound where
  separated _ _ hn := by
    have hall : (listedRegions.all fun region => region.2.isSeparated) = true := by decide +kernel
    exact History.separated_of_isSeparated (of_all_listedRegions hall hn)
  bounded _ _ hn o ho := by
    have hall : (listedRegions.all fun region => region.2.observances.all fun o => o.offset.natAbs < 86400) = true := by
      decide +kernel
    exact of_decide_eq_true (List.all_eq_true.1 (of_all_listedRegions hall hn) o ho)

theorem hasReadableOffsets_listed : listed.HasReadableOffsets := by
  intro name history hn o ho
  have hall : (listedRegions.all fun region => region.2.observances.all fun o => o.offset.natAbs ≤ 64800) = true := by
    decide +kernel
  exact of_decide_eq_true (List.all_eq_true.1 (of_all_listedRegions hall hn) o ho)

theorem knowsOldNames_listed : listed.KnowsOldNames := by
  decide +kernel

end Database

end CivilTime
