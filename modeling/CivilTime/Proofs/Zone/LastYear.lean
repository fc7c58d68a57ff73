import CivilTime.Proofs.Zone.Gaps
import CivilTime.Proofs.Zone.Listed

/-!
# The end of the last year

Where the listed changes of all regions are over before the year 9999 (`Database.EndsEarly`), no zone that can be named changes
its clocks within three days of the end of that year (`Zone.IsCalmAtEnd`), because the changes of a closing rule lie days away
from the turn of every year (`Swing.atUtc_turn`). So where the clocks are put forth over a local time of the supported years,
they do not reach the end of these years (`Zone.IsCalmAtEnd.skips_lt`).
-/

namespace CivilTime

/-! ### Closing rules -/

/-- Around the turn of a year the clocks do not change. -/
theorem Swing.atUtc_turn {rule : ClosingRule} {low high : Observance} {forth back : Int → Int}
    (h : Swing rule low high forth back) {year s : Int} (hs : newYear year - 259200 ≤ s)
    (hs' : s ≤ newYear year + 259200) : (rule.atUtc s).1 = (rule.atUtc (newYear year)).1 := by
  have hforth := h.forth_inside (year - 1)
  have hback := h.back_inside (year - 1)
  have hlen := newYear_add_le (year - 1)
  rw [show year - 1 + 1 = year by omega] at hforth hback hlen
  have hin : inSeason (forth (year - 1)) (back (year - 1)) s =
      inSeason (forth (year - 1)) (back (year - 1)) (newYear year) := by
    rw [Bool.eq_iff_iff, inSeason_iff, inSeason_iff]
    omega
  have hnear := fun t => @Swing.atUtc_near _ _ _ _ _ h (year - 1) t
  rw [show year - 1 + 1 = year by omega] at hnear
  rw [hnear s (by omega) hs', hnear (newYear year) (by omega) (by omega), hin]

/-! ### Histories -/

private theorem afterChange_fst_of_lt (rule : ClosingRule) {s : Int} (previous : Observance) {since : Int}
    (current : Observance) {changes : List Change} (hsince : since < s) (hs : ∀ c ∈ changes, c.second < s) :
    (afterChange rule s previous since current changes).1 = (rule.atUtc s).1 := by
  induction changes generalizing previous since current with
  | nil => rw [afterChange, if_neg (by omega)]
  | cons next rest ih =>
    have hnext := hs next List.mem_cons_self
    rw [afterChange, if_neg (by omega)]
    exact ih current next.observance hnext fun c hc => hs c (List.mem_cons_of_mem _ hc)

/-- After all listed changes the rule decides. -/
theorem History.atUtc_fst_of_lt {h : History} {s : Int} (hs : ∀ c ∈ h.changes, c.second < s) :
    (h.atUtc s).1 = (h.rule.atUtc s).1 := by
  unfold atUtc
  cases hc : h.changes with
  | nil => rfl
  | cons c changes =>
    rw [hc] at hs
    have hfirst := hs c List.mem_cons_self
    dsimp only
    rw [if_neg (by omega)]
    exact afterChange_fst_of_lt h.rule h.first c.observance hfirst fun c' hc' => hs c' (List.mem_cons_of_mem _ hc')

/-! ### Zones -/

namespace Zone

/-- The clocks of the zone do not change within three days of the end of the year 9999. -/
def IsCalmAtEnd (z : Zone) : Prop :=
  ∀ s, newYear 10000 - 259200 ≤ s → s ≤ newYear 10000 + 259200 → (z.atUtc s).1 = (z.atUtc (newYear 10000)).1

theorem newYear_end : newYear 10000 = 253402300800 := by
  decide

/-- Where the clocks are put forth over a local time of the supported years, they do not reach the end of these years. -/
theorem IsCalmAtEnd.skips_lt {z : Zone} (h : z.IsCalmAtEnd) (hb : z.Bounded) {u l : Int} (hu : z.Skips u l)
    (hl : l < newYear 10000) : l + z.gap u < newYear 10000 := by
  obtain ⟨hle, hlt⟩ := hu
  have hoff := hb _ (z.atUtc_mem u)
  have hoff' := hb _ (z.atUtc_mem (u - 1))
  unfold gap
  by_cases hbefore : u ≤ newYear 10000 - 259200
  · omega
  · by_cases hafter : newYear 10000 + 259200 < u
    · omega
    · -- the clocks do not change here
      have hsame := h u (by omega) (by omega)
      have hsame' := h (u - 1) (by omega) (by omega)
      rw [hsame] at hlt
      rw [hsame'] at hle
      omega

end Zone

/-! ### Databases -/

/-- The listed changes of all regions are over before the year 9999. -/
def Database.EndsEarly (db : Database) : Prop :=
  ∀ name history, db.history? name = some history → ∀ c ∈ history.changes, c.second < newYear 9999

theorem isCalmAtEnd_of_history {h : History} (hsep : h.Separated) (hearly : ∀ c ∈ h.changes, c.second < newYear 9999)
    (name : String) : (Zone.region name h).IsCalmAtEnd := by
  obtain ⟨low, high, forth, back, hr, -⟩ := hsep.1.exists_swing
  have hyear : newYear 9999 + 31536000 ≤ newYear 10000 := newYear_add_le 9999
  intro s hs hs'
  change (h.atUtc s).1 = (h.atUtc (newYear 10000)).1
  rw [History.atUtc_fst_of_lt fun c hc => ?_, History.atUtc_fst_of_lt fun c hc => ?_]
  · exact hr.atUtc_turn hs hs'
  · have := hearly c hc
    omega
  · have := hearly c hc
    omega

theorem isCalmAtEnd_of_resolveZone? {db : Database} (hdb : db.IsSeparated) (hearly : db.EndsEarly) {name : String} {z : Zone}
    (h : resolveZone? name db = some z) : z.IsCalmAtEnd := by
  rcases resolveZone?_cases h with ⟨offset, n, rfl, -⟩ | ⟨n, history, rfl, hh⟩
  · exact fun s _ _ => rfl
  · exact isCalmAtEnd_of_history (hdb n history hh) (hearly n history hh) n

theorem Database.endsEarly_listed : listed.EndsEarly := by
  intro name history hn c hc
  have hall : (listedRegions.all fun region => region.2.changes.all fun c => c.second < newYear 9999) = true := by
    decide +kernel
  exact of_decide_eq_true (List.all_eq_true.1 (of_all_listedRegions hall hn) c hc)

end CivilTime
