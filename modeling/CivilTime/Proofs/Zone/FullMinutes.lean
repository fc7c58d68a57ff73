import CivilTime.Proofs.Zone.Listed
import CivilTime.Proofs.Zone.Overlaps

/-!
# Turning at full minutes

Clocks that are set from a local mean time turn off the full minute. Where no region does so since 1973, because from then on the
listed changes and those of the closing rules are at full minutes of local time (`Database.TurnsAtFullMinutes`), a zone reads all
seconds of a minute with the same (`atLocal_eq_of_sameMinute`).
-/

namespace CivilTime

/-- The listed changes from the UTC second `since` on turn the clocks at full minutes; `previous` is observed before them. Where
a change is listed to what is observed already, no clock turns. -/
def turnAtFullMinutes (since : Int) : Observance → List Change → Bool
  | _, [] => true
  | previous, c :: changes =>
    (c.second < since || previous = c.observance || c.localSecond false previous % 60 = 0) &&
      turnAtFullMinutes since c.observance changes

/-- The rule turns the clocks at full minutes. -/
def ClosingRule.turnsAtFullMinutes : ClosingRule → Bool
  | .steady _ => true
  | .seasonal standard season start finish =>
    start.time % 60 = 0 && finish.time % 60 = 0 && (season.offset - standard.offset) % 60 = 0

/-- From the UTC second `since` on the region's clocks turn at full minutes. -/
def History.turnsAtFullMinutes (since : Int) (h : History) : Bool :=
  turnAtFullMinutes since h.first h.changes && h.rule.turnsAtFullMinutes

variable {since u k l l' : Int} {rule : ClosingRule} {previous : Observance} {c : Change} {changes : List Change}

/-! ### Histories -/

private theorem turnAtFullMinutes_cons_iff :
    turnAtFullMinutes since previous (c :: changes) = true ↔
      (since ≤ c.second → previous ≠ c.observance → (c.second + max previous.offset c.observance.offset) % 60 = 0) ∧
        turnAtFullMinutes since c.observance changes = true := by
  rw [turnAtFullMinutes, Bool.and_eq_true, Bool.or_eq_true, Bool.or_eq_true, decide_eq_true_eq, decide_eq_true_eq,
    decide_eq_true_eq, ← Int.not_le, or_assoc, ← Decidable.imp_iff_not_or, Decidable.or_iff_not_imp_left]
  rfl

private theorem eq_or_eq_of_inSeason {start finish s : Int}
    (h : inSeason start finish (s - 1) ≠ inSeason start finish s) : s = start ∨ s = finish := by
  by_cases hstart : s = start
  · exact .inl hstart
  · by_cases hfinish : s = finish
    · exact .inr hfinish
    · refine absurd ?_ h
      rw [Bool.eq_iff_iff, inSeason_iff, inSeason_iff]
      omega

private theorem ClosingRule.Separated.emod_of_turn (hsep : rule.Separated) (hfull : rule.turnsAtFullMinutes = true)
    (hne : (rule.atUtc (u - 1)).1 ≠ (rule.atUtc u).1) :
    (u + max (rule.atUtc (u - 1)).1.offset (rule.atUtc u).1.offset) % 60 = 0 := by
  cases rule with
  | steady observance => exact absurd rfl hne
  | seasonal standard season start finish =>
    unfold turnsAtFullMinutes at hfull
    simp only [Bool.and_eq_true, decide_eq_true_eq] at hfull
    obtain ⟨hlow, hhigh⟩ := yearOfSecond_bounds u
    generalize yearOfSecond u = year at hlow hhigh
    have hstart : start.second year % 60 = 0 := by
      unfold YearlyTime.second
      omega
    have hfinish : finish.second year % 60 = 0 := by
      unfold YearlyTime.second
      omega
    rw [hsep.atUtc_near (y := year) (by omega) (by omega), hsep.atUtc_near (y := year) (by omega) (by omega)] at hne ⊢
    -- the season begins or ends at `u`, and one of the two is observed before, the other one from then on
    have hturn := @eq_or_eq_of_inSeason (start.second year - standard.offset) (finish.second year - season.offset) u
      fun he => hne (by rw [he])
    have hboth : ∀ a b : Bool, (if a = true then season else standard) ≠ (if b = true then season else standard) →
        max (if a = true then season else standard).offset (if b = true then season else standard).offset =
          max standard.offset season.offset := by
      intro a b hab
      cases a <;> cases b <;> first | exact absurd rfl hab | rfl | exact Int.max_comm _ _
    rw [hboth _ _ hne]
    omega

private theorem utcSince_self (h : ChangesSeparated rule previous c changes) (hrule : rule.Separated) :
    (utcSince rule previous c changes c.second).1 = c.observance := by
  obtain ⟨low, high, forth, back, hr, hg⟩ := hrule.exists_swing
  rw [utcSince_near hr hg h (Int.le_refl _) (by omega)]

private theorem emod_of_turn_utcSince (hsep : ChangesSeparated rule previous c changes) (hrule : rule.Separated)
    (hrules : rule.turnsAtFullMinutes = true) (hfull : turnAtFullMinutes since c.observance changes = true)
    (hsince : since ≤ u) (hu : c.second < u)
    (hne : (utcSince rule previous c changes (u - 1)).1 ≠ (utcSince rule previous c changes u).1) :
    (u + max (utcSince rule previous c changes (u - 1)).1.offset (utcSince rule previous c changes u).1.offset) % 60 =
      0 := by
  induction changes generalizing previous c with
  | nil =>
    rw [utcSince_nil_fst hsep (by omega), utcSince_nil_fst hsep (by omega)] at hne ⊢
    exact hrule.emod_of_turn hrules hne
  | cons next rest ih =>
    rw [turnAtFullMinutes_cons_iff] at hfull
    rcases Int.lt_trichotomy u next.second with hbefore | rfl | hafter
    · rw [utcSince_cons_of_lt hbefore, utcSince_cons_of_lt (by omega)] at hne
      exact absurd rfl hne
    · rw [utcSince_cons_of_lt (by omega), utcSince_cons_of_le (Int.le_refl _), utcSince_self hsep.2 hrule] at hne ⊢
      exact hfull.1 hsince hne
    · rw [utcSince_cons_of_le (by omega), utcSince_cons_of_le (by omega)] at hne ⊢
      exact ih hsep.2 hfull.2 hafter hne

/-- From `since` on, the local seconds at which a region's clocks turn are full minutes. -/
private theorem History.emod_of_turn {h : History} (hsep : h.Separated) (hfull : h.turnsAtFullMinutes since = true)
    (hsince : since ≤ u) (hne : (h.atUtc (u - 1)).1 ≠ (h.atUtc u).1) :
    (u + max (h.atUtc (u - 1)).1.offset (h.atUtc u).1.offset) % 60 = 0 := by
  obtain ⟨hrule, hchanges⟩ := hsep
  unfold turnsAtFullMinutes at hfull
  rw [Bool.and_eq_true] at hfull
  obtain ⟨hlisted, hrules⟩ := hfull
  cases hc : h.changes with
  | nil =>
    have hatUtc : ∀ s, h.atUtc s = h.rule.atUtc s := fun s => by rw [atUtc, hc]
    rw [hatUtc, hatUtc] at hne ⊢
    exact hrule.emod_of_turn hrules hne
  | cons c changes =>
    rw [hc] at hchanges hlisted
    rw [turnAtFullMinutes_cons_iff] at hlisted
    rcases Int.lt_trichotomy u c.second with hbefore | rfl | hafter
    · rw [atUtc_of_lt hc hbefore, atUtc_of_lt hc (by omega)] at hne
      exact absurd rfl hne
    · rw [atUtc_of_lt hc (by omega), atUtc_of_le hc (Int.le_refl _), utcSince_self hchanges hrule] at hne ⊢
      exact hlisted.1 hsince hne
    · rw [atUtc_of_le hc (by omega), atUtc_of_le hc (by omega)] at hne ⊢
      exact emod_of_turn_utcSince hchanges hrule hrules hlisted.2 hsince hafter hne

/-! ### Databases -/

/-- From 1973 on, the first day of which begins up to a day earlier in UTC, all regions turn their clocks at full minutes. -/
def Database.TurnsAtFullMinutes (db : Database) : Prop :=
  ∀ name history, db.history? name = some history → history.turnsAtFullMinutes (newYear 1973 - 86400) = true

/-- Since 1973 the clocks of a zone that stands in date text turn at full minutes. -/
theorem turnsAt_emod_of_readZone? {db : Database} (hdb : db.IsSound) (hfull : db.TurnsAtFullMinutes) {anyCase : Bool}
    {text : String} {z : Zone} (h : readZone? anyCase text db = some z) (hk : z.TurnsAt k) (hlate : newYear 1973 ≤ k) :
    k % 60 = 0 := by
  obtain ⟨u, hne, rfl⟩ := hk
  have hb := bounded_of_readZone? hdb.bounded h
  have hoff := hb _ (z.atUtc_mem u)
  have hoff' := hb _ (z.atUtc_mem (u - 1))
  rcases readZone?_cases h with ⟨offset, n, rfl, -⟩ | ⟨n, history, rfl, hh⟩
  · exact absurd rfl hne
  · exact History.emod_of_turn (hdb.separated n history hh) (hfull n history hh) (by omega) hne

/-- Since 1973 a zone that stands in date text reads all seconds of a minute of local time with the same. -/
theorem atLocal_eq_of_sameMinute {db : Database} (hdb : db.IsSound) (hturns : db.TurnsAtFullMinutes) {anyCase : Bool}
    {text : String} {z : Zone} (h : readZone? anyCase text db = some z) (hlate : newYear 1973 ≤ l) (hfull : l % 60 = 0)
    (hle : l ≤ l') (hlt : l' < l + 60) : z.atLocal false l' = z.atLocal false l := by
  refine (separated_of_readZone? hdb.separated h).atLocal_eq_of_not_turnsAt (bounded_of_readZone? hdb.bounded h) hle
    fun k hk hk' hturn => ?_
  have := turnsAt_emod_of_readZone? hdb hturns h hturn (by omega)
  omega

theorem Database.turnsAtFullMinutes_listed : listed.TurnsAtFullMinutes := by
  intro name history hn
  have hall : (listedRegions.all fun region => region.2.turnsAtFullMinutes (newYear 1973 - 86400)) = true := by
    decide +kernel
  exact of_all_listedRegions hall hn

end CivilTime
