import CivilTime.Proofs.Zone.Listed

/-!
# The first year

Where the regions of a database observe their first offset until after the year 1 (`Database.IsCalmAtStart`), no zone that can
be named shows a local time of that year for the second time (`Zone.IsCalmAtStart`).
-/

namespace CivilTime

/-- The region's clocks are left alone in the year 1. -/
def History.isCalmAtStart (h : History) : Bool :=
  match h.changes with
  | [] => match h.rule with
    | .steady _ => true
    | .seasonal .. => false
  | c :: _ => newYear 2 ≤ c.second

/-- No local time is shown for the second time up to the end of the year 1. -/
structure Zone.IsCalmAtStart (z : Zone) : Prop where
  firstPass : ∀ s < newYear 2, (z.atUtc s).2 = false

theorem newYear_start : newYear 2 = -62104060800 := by
  decide

theorem isCalmAtStart_of_history {h : History} (hcalm : h.isCalmAtStart = true) (name : String) :
    (Zone.region name h).IsCalmAtStart := by
  refine ⟨fun s hs => ?_⟩
  change (h.atUtc s).2 = false
  unfold History.isCalmAtStart at hcalm
  unfold History.atUtc
  cases hc : h.changes with
  | nil =>
    rw [hc] at hcalm
    cases hrule : h.rule with
    | steady observance => rfl
    | seasonal standard season start finish =>
      rw [hrule] at hcalm
      cases hcalm
  | cons c changes =>
    rw [hc] at hcalm
    dsimp only at hcalm ⊢
    rw [decide_eq_true_eq] at hcalm
    rw [if_pos (by omega)]

/-! ### Databases -/

/-- The clocks of all regions are left alone in the year 1. -/
def Database.IsCalmAtStart (db : Database) : Prop :=
  ∀ name history, db.history? name = some history → history.isCalmAtStart = true

theorem isCalmAtStart_of_resolveZone? {db : Database} (hdb : db.IsCalmAtStart) {name : String} {z : Zone}
    (h : resolveZone? name db = some z) : z.IsCalmAtStart := by
  rcases resolveZone?_cases h with ⟨offset, n, rfl, -⟩ | ⟨n, history, rfl, hh⟩
  · exact ⟨fun _ _ => rfl⟩
  · exact isCalmAtStart_of_history (hdb n history hh) n

theorem Database.isCalmAtStart_listed : listed.IsCalmAtStart := by
  intro name history hn
  have hall : (listedRegions.all fun region => region.2.isCalmAtStart) = true := by decide +kernel
  exact of_all_listedRegions hall hn

end CivilTime
