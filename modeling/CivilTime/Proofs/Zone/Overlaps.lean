import CivilTime.Proofs.Zone.Gaps
import CivilTime.Proofs.Zone.Regions

/-!
# Overlaps

Where the clocks are put back, what they showed last is shown again (`Zone.Repeats`). Between two seconds the clocks show every
local second that lies between theirs, but for those that are skipped (`Zone.shows_between`), and no local second is shown more
than twice (`Zone.Separated.eq_of_samePass`). So in a zone with separated changes nothing else happens in an overlap: its
seconds are the second passes (`Zone.Separated.secondPass_iff`), and the first ones lie before it by its length
(`Zone.Separated.repeatsAt`). What a local second is read with changes only where the clocks do (`Zone.TurnsAt`,
`Zone.Separated.atLocal_eq_of_not_turnsAt`).
-/

namespace CivilTime.Zone

variable {z : Zone} {a b l s t u v : Int}

/-- The length of the overlap where the clocks are put back at the UTC second `u`. -/
def overlap (z : Zone) (u : Int) : Int := (z.atUtc (u - 1)).1.offset - (z.atUtc u).1.offset

/-- The zone's clocks are put back at the UTC second `u`, and at the UTC second `s` they have not made up for it. -/
structure Repeats (z : Zone) (u s : Int) : Prop where
  le : u ≤ s
  lt : s < u + z.overlap u

/-! ### What is shown between two seconds -/

/-- Step by step the clocks run through the local seconds between two that they show, or are put forth over them. -/
theorem shows_between (hab : a ≤ b) (ha : a + (z.atUtc a).1.offset ≤ l) (hb : l ≤ b + (z.atUtc b).1.offset) :
    (∃ s, a ≤ s ∧ s ≤ b ∧ z.Shows s l) ∨ ∃ u, z.Skips u l := by
  obtain ⟨n, rfl⟩ : ∃ n : Nat, b = a + n := ⟨(b - a).toNat, by omega⟩
  clear hab
  induction n with
  | zero =>
    rw [Int.natCast_zero, Int.add_zero] at hb
    exact .inl ⟨a, Int.le_refl a, by omega, Int.le_antisymm ha hb⟩
  | succ n ih =>
    rw [Int.natCast_succ, ← Int.add_assoc] at hb
    by_cases hle : l ≤ a + n + (z.atUtc (a + n)).1.offset
    · rcases ih hle with ⟨s, has, hsb, hs⟩ | hskip
      · exact .inl ⟨s, has, by omega, hs⟩
      · exact .inr hskip
    · by_cases he : a + n + 1 + (z.atUtc (a + n + 1)).1.offset = l
      · exact .inl ⟨a + n + 1, by omega, by omega, he⟩
      · refine .inr ⟨a + n + 1, ?_, by omega⟩
        rw [Int.add_sub_cancel]
        omega

theorem Separated.shows_between (h : z.Separated) (hl : z.Shows t l) (hab : a ≤ b)
    (ha : a + (z.atUtc a).1.offset ≤ l) (hb : l ≤ b + (z.atUtc b).1.offset) : ∃ s, a ≤ s ∧ s ≤ b ∧ z.Shows s l := by
  refine (Zone.shows_between hab ha hb).resolve_right ?_
  rintro ⟨u, hu⟩
  exact h.not_shows_of_skips hu hl

/-! ### Passes -/

/-- A local second is shown at most once on each pass. -/
theorem Separated.eq_of_samePass (h : z.Separated) (hs : z.Shows s l) (ht : z.Shows t l)
    (hp : (z.atUtc s).2 = (z.atUtc t).2) : s = t := by
  have hreads := h.coherent.reads s
  have hreads' := h.coherent.reads t
  unfold Shows at hs ht
  rw [hs, hp] at hreads
  rw [ht, hreads] at hreads'
  rw [hreads'] at hs
  omega

/-- What is shown again is on its second pass. -/
theorem Separated.secondPass_of_lt (h : z.Separated) (hs : z.Shows s l) (ht : z.Shows t l) (hts : t < s) :
    (z.atUtc s).2 = true := by
  cases hp : (z.atUtc s).2 with
  | true => rfl
  | false =>
    have hreads := h.coherent.reads s
    have hs' : s + (z.atUtc s).1.offset = l := hs
    rw [hs', hp] at hreads
    rcases h.atLocal_cases l with ⟨-, hleast⟩ | ⟨u, hu, -⟩
    · have hle := hleast t ht
      rw [hreads] at hle
      omega
    · exact absurd hs (h.not_shows_of_skips hu)

/-! ### Second passes -/

/-- Before the clocks have made up for being put back they are not put forth. -/
private theorem Separated.offset_le_of_repeats (h : z.Separated) (hv : z.Repeats v s) :
    (z.atUtc s).1.offset ≤ (z.atUtc v).1.offset := by
  obtain ⟨hvs, hsv⟩ := hv
  unfold overlap at hsv
  obtain ⟨n, rfl⟩ : ∃ n : Nat, s = v + n := ⟨(s - v).toNat, by omega⟩
  clear hvs
  induction n with
  | zero => simp
  | succ n ih =>
    rw [Int.natCast_succ, ← Int.add_assoc] at hsv ⊢
    have hle := ih (by omega)
    by_cases hforth : (z.atUtc (v + n)).1.offset < (z.atUtc (v + n + 1)).1.offset
    · -- what was shown right before `v` would not be left behind
      have hbefore := (h.forth_order (u := v + n + 1) (by rwa [Int.add_sub_cancel])).1 (v - 1) (by omega)
      rw [Int.add_sub_cancel] at hbefore
      omega
    · omega

/-- While the clocks have not made up for being put back they show what they showed before. -/
theorem Separated.secondPass_of_repeats (h : z.Separated) (hb : z.Bounded) (hv : z.Repeats v s) :
    (z.atUtc s).2 = true := by
  have hle := h.offset_le_of_repeats hv
  obtain ⟨hvs, hsv⟩ := hv
  unfold overlap at hsv
  have hlow := hb _ (z.atUtc_mem (s + (z.atUtc s).1.offset - 86400))
  have hlast := hb _ (z.atUtc_mem (v - 1))
  obtain ⟨t, -, htv, ht⟩ := h.shows_between (a := s + (z.atUtc s).1.offset - 86400) (b := v - 1)
    (show z.Shows s (s + (z.atUtc s).1.offset) from rfl) (by omega) (by omega) (by omega)
  exact h.secondPass_of_lt rfl ht (by omega)

/-- The clocks are not put back on a second pass, because what they show would be shown a third time. -/
private theorem Separated.offset_le_of_secondPass (h : z.Separated) (hb : z.Bounded) (hs : (z.atUtc (u - 1)).2 = true) :
    (z.atUtc (u - 1)).1.offset ≤ (z.atUtc u).1.offset := by
  by_cases hback : (z.atUtc u).1.offset < (z.atUtc (u - 1)).1.offset
  · have hnext := hb _ (z.atUtc_mem u)
    have hhigh := hb _ (z.atUtc_mem (u - 1 + (z.atUtc (u - 1)).1.offset + 86400))
    obtain ⟨t, hut, -, ht⟩ := h.shows_between (a := u) (b := u - 1 + (z.atUtc (u - 1)).1.offset + 86400)
      (show z.Shows (u - 1) (u - 1 + (z.atUtc (u - 1)).1.offset) from rfl) (by omega) (by omega) (by omega)
    have hthird := h.secondPass_of_lt ht rfl (by omega)
    have := h.eq_of_samePass ht rfl (hthird.trans hs.symm)
    omega
  · omega

/-- In an overlap nothing else happens: what is shown in it was shown before by its length. -/
theorem Separated.repeatsAt (h : z.Separated) (hb : z.Bounded) (hv : z.Repeats v s) : RepeatsAt z.atUtc v s := by
  obtain ⟨u, hu⟩ := h.coherent.repeats s (h.secondPass_of_repeats hb hv)
  obtain ⟨hvs, hsv⟩ := hv
  have hus := hu.le
  have hsu := hu.lt
  -- of two such changes the later one would come on the second pass of the earlier one
  have hlater : ∀ {v u : Int}, v < u → u ≤ s → s < v + z.overlap v → z.overlap u ≤ 0 := by
    intro v u hvu hus hsv
    have := h.offset_le_of_secondPass hb (h.secondPass_of_repeats hb (s := u - 1) (v := v) ⟨by omega, by omega⟩)
    unfold overlap
    omega
  rcases Int.lt_trichotomy u v with huv | rfl | hvu
  · have := hlater huv hvs hsu
    omega
  · exact hu
  · have := hlater hvu hus hsv
    unfold overlap at this
    omega

/-- The second passes are the seconds in overlaps. -/
theorem Separated.secondPass_iff (h : z.Separated) (hb : z.Bounded) : (z.atUtc s).2 = true ↔ ∃ u, z.Repeats u s := by
  constructor
  · intro hs
    obtain ⟨u, hu⟩ := h.coherent.repeats s hs
    exact ⟨u, hu.le, hu.lt⟩
  · rintro ⟨u, hu⟩
    exact h.secondPass_of_repeats hb hu

/-! ### Reading local seconds -/

/-- In a gap the offset before it counts. -/
theorem Separated.atLocal_of_skips (h : z.Separated) (hu : z.Skips u l) : z.atLocal false l = (z.atUtc (u - 1)).1 := by
  rcases h.atLocal_cases l with ⟨hl, -⟩ | ⟨v, hv, hbefore, -⟩
  · refine absurd ?_ (h.not_shows_of_skips (s := l - (z.atLocal false l).offset) hu)
    unfold Shows
    rw [hl]
    exact Int.sub_add_cancel _ _
  · rw [h.skips_unique hu hv, hbefore]

/-- There is one observance that a local second is read with. -/
theorem Separated.readsWith_iff (h : z.Separated) {o : Observance} : z.ReadsWith l o ↔ o = z.atLocal false l := by
  constructor
  · rintro (⟨s, hs, hleast, rfl⟩ | ⟨u, hu, rfl⟩)
    · have hfirst : (z.atUtc s).2 = false := by
        cases hp : (z.atUtc s).2 with
        | false => rfl
        | true =>
          obtain ⟨u, hu⟩ := h.coherent.repeats s hp
          have hbefore := hu.first
          have hlt := hu.lt
          have heq := hu.offset_eq
          have hle := hu.le
          have := hleast (s - ((z.atUtc (u - 1)).1.offset - (z.atUtc u).1.offset)) (by
            unfold Shows at hs ⊢
            rw [hbefore]
            dsimp only
            omega)
          omega
      have hreads := h.coherent.reads s
      have hs' : s + (z.atUtc s).1.offset = l := hs
      rw [hs', hfirst] at hreads
      exact hreads.symm
    · exact (h.atLocal_of_skips hu).symm
  · rintro rfl
    exact h.reads_atLocal l

/-- The zone's clocks change at some UTC second, and the local second `l` is the first one that is read with what is observed
from then on. -/
def TurnsAt (z : Zone) (l : Int) : Prop :=
  ∃ u, (z.atUtc (u - 1)).1 ≠ (z.atUtc u).1 ∧ l = u + max (z.atUtc (u - 1)).1.offset (z.atUtc u).1.offset

private theorem Separated.atLocal_succ (h : z.Separated) (hb : z.Bounded) (hno : ¬z.TurnsAt (l + 1)) :
    z.atLocal false (l + 1) = z.atLocal false l := by
  rcases h.atLocal_cases l with ⟨hl, -⟩ | ⟨u, ⟨hle, hlt⟩, -, -⟩
  · generalize ho : z.atLocal false l = o at hl ⊢
    by_cases hsame : (z.atUtc (l - o.offset + 1)).1 = o
    · -- the next second shows the next local second, and on the first pass as well
      have hpass : (z.atUtc (l - o.offset + 1)).2 = false := by
        rw [← Bool.not_eq_true, h.secondPass_iff hb]
        rintro ⟨u, hle, hlt⟩
        by_cases hu : u ≤ l - o.offset
        · have := h.secondPass_of_repeats hb (s := l - o.offset) (v := u) ⟨hu, by omega⟩
          rw [hl] at this
          cases this
        · obtain rfl : u = l - o.offset + 1 := by omega
          unfold overlap at hlt
          rw [hsame, Int.add_sub_cancel, hl] at hlt
          dsimp only at hlt
          omega
      have hreads := h.coherent.reads (l - o.offset + 1)
      rw [hpass, hsame] at hreads
      rw [show l + 1 = l - o.offset + 1 + o.offset by omega, hreads]
    · have hturn : ∀ k, z.atUtc (l - o.offset + 1 - 1) = (o, false) → k = l - o.offset + 1 +
          max o.offset (z.atUtc (l - o.offset + 1)).1.offset → z.TurnsAt k := by
        intro k hbefore hk
        refine ⟨l - o.offset + 1, ?_, ?_⟩
        · rw [hbefore]
          exact Ne.symm hsame
        · rw [hbefore]
          exact hk
      rw [← Int.add_sub_cancel (l - o.offset) 1] at hl
      -- the clocks are put forth over the next local second, or turn there
      have hskip : z.Skips (l - o.offset + 1) (l + 1) := by
        have := mt (hturn (l + 1) hl) hno
        unfold Skips
        rw [hl]
        dsimp only
        omega
      rw [h.atLocal_of_skips hskip, hl]
  · by_cases hin : l + 1 < u + (z.atUtc u).1.offset
    · rw [h.atLocal_of_skips (u := u) ⟨hle, hlt⟩, h.atLocal_of_skips (u := u) ⟨by omega, hin⟩]
    · refine absurd ⟨u, fun he => ?_, ?_⟩ hno
      · rw [he] at hle
        omega
      · omega

/-- Where the clocks do not turn, local seconds are read with the same. -/
theorem Separated.atLocal_eq_of_not_turnsAt (h : z.Separated) (hb : z.Bounded) {l' : Int} (hle : l ≤ l')
    (hno : ∀ k, l < k → k ≤ l' → ¬z.TurnsAt k) : z.atLocal false l' = z.atLocal false l := by
  obtain ⟨n, rfl⟩ : ∃ n : Nat, l' = l + n := ⟨(l' - l).toNat, by omega⟩
  clear hle
  induction n with
  | zero => rw [Int.natCast_zero, Int.add_zero]
  | succ n ih =>
    rw [Int.natCast_succ, ← Int.add_assoc] at hno ⊢
    rw [h.atLocal_succ hb (hno (l + n + 1) (by omega) (Int.le_refl _)), ih fun k hk hk' => hno k hk (by omega)]

end CivilTime.Zone
