import CivilTime.Proofs.Zone.Separated

/-!
# Gaps

A local time is in a gap if the clocks are put forth over it (`Zone.Skips`). In a zone with separated changes a change
that puts the clocks forth parts what is shown before it from what is shown after it (`Zone.Separated.forth_order`). So
the local times in gaps are those that are never shown (`Zone.Separated.shown_iff`), each lies in one gap only
(`Zone.Separated.skips_unique`), and a local time that is read on its first pass is read with the offset before the change
that repeats or skips it (`Zone.Separated.reads_atLocal`).
-/

namespace CivilTime

variable {rule : ClosingRule} {low high : Observance} {forth back : Int → Int} {previous : Observance} {c : Change}
  {changes : List Change}

/-! ### Putting the clocks forth -/

/-- After a change the clocks never show a time before the one that it brought. -/
private theorem utcSince_after (hr : Swing rule low high forth back) (hg : high.offset - low.offset = rule.swing)
    (h : ChangesSeparated rule previous c changes) {s : Int} (hs : c.second ≤ s) :
    c.second + c.observance.offset ≤ s + (utcSince rule previous c changes s).1.offset := by
  -- up to the next change the clocks run on from `c`, and that change may not put them back before it
  induction changes generalizing previous c with
  | nil =>
    rw [utcSince_nil_fst h hs]
    by_cases hnear : s ≤ c.second + c.size previous + rule.swing
    · rw [h.after s hs hnear]
      omega
    · have hself := h.after c.second (by omega) (by omega)
      have hle := hr.le
      rcases hr.atUtc_eq_or c.second with e | e <;> rcases hr.atUtc_eq_or s with e' | e' <;> rw [← hself, e, e'] <;>
        omega
  | cons next rest ih =>
    obtain ⟨hgap, hrest⟩ := h
    have hsize := @Change.size_eq c.observance next
    by_cases hnext : s < next.second
    · rw [utcSince_cons_of_lt hnext]
      dsimp only
      omega
    · have := ih hrest (by omega)
      rw [utcSince_cons_of_le (by omega)]
      omega

private theorem utcSince_nil_forth_order (hr : Swing rule low high forth back)
    (hg : high.offset - low.offset = rule.swing) (h : rule.Continues previous c) {u : Int} (hcu : c.second < u)
    (hu : (utcSince rule previous c [] (u - 1)).1.offset < (utcSince rule previous c [] u).1.offset) :
    c.second + c.observance.offset + c.size previous < u + (utcSince rule previous c [] (u - 1)).1.offset ∧
      (∀ s, c.second ≤ s → s < u →
        s + (utcSince rule previous c [] s).1.offset < u + (utcSince rule previous c [] (u - 1)).1.offset) ∧
      ∀ s, u ≤ s → u + (utcSince rule previous c [] u).1.offset ≤ s + (utcSince rule previous c [] s).1.offset := by
  have hfst : ∀ s, c.second ≤ s → (utcSince rule previous c [] s).1 = (rule.atUtc s).1 :=
    fun s hs => utcSince_nil_fst h hs
  rw [hfst u (by omega), hfst (u - 1) (by omega)] at *
  obtain ⟨hbefore, hafter⟩ := hr.forth_order hu
  have hfar : c.second + c.size previous + rule.swing < u := by
    by_cases hnear : u ≤ c.second + c.size previous + rule.swing
    · rw [h.after u (by omega) hnear, h.after (u - 1) (by omega) (by omega)] at hu
      omega
    · omega
  have hself := h.after c.second (by omega) (by omega)
  have hle := hr.le
  refine ⟨?_, fun s hs hsu => ?_, fun s hs => ?_⟩
  · rcases hr.atUtc_eq_or c.second with e | e <;> rcases hr.atUtc_eq_or (u - 1) with e' | e' <;>
      rw [← hself, e, e'] <;> omega
  · rw [hfst s hs]
    exact hbefore s hsu
  · rw [hfst s (by omega)]
    exact hafter s hs

private theorem utcSince_forth_order (hr : Swing rule low high forth back)
    (hg : high.offset - low.offset = rule.swing) (h : ChangesSeparated rule previous c changes) {u : Int}
    (hcu : c.second < u)
    (hu : (utcSince rule previous c changes (u - 1)).1.offset < (utcSince rule previous c changes u).1.offset) :
    c.second + c.observance.offset + c.size previous < u + (utcSince rule previous c changes (u - 1)).1.offset ∧
      (∀ s, c.second ≤ s → s < u →
        s + (utcSince rule previous c changes s).1.offset <
          u + (utcSince rule previous c changes (u - 1)).1.offset) ∧
      ∀ s, u ≤ s →
        u + (utcSince rule previous c changes u).1.offset ≤ s + (utcSince rule previous c changes s).1.offset := by
  induction changes generalizing previous c with
  | nil => exact utcSince_nil_forth_order hr hg h hcu hu
  | cons next rest ih =>
    obtain ⟨hgap, hrest⟩ := h
    have hsize := @Change.size_eq c.observance next
    have hlt : ∀ s, s < next.second → (utcSince rule previous c (next :: rest) s).1 = c.observance := by
      intro s hs
      rw [utcSince_cons_of_lt hs]
    have hge : ∀ s, next.second ≤ s →
        (utcSince rule previous c (next :: rest) s).1 = (utcSince rule c.observance next rest s).1 := by
      intro s hs
      rw [utcSince_cons_of_le hs]
    -- the offset grows at the next listed change or after it
    by_cases hnext : u < next.second
    · rw [hlt u hnext, hlt (u - 1) (by omega)] at hu
      omega
    · by_cases he : u = next.second
      · subst he
        have hself : (utcSince rule c.observance next rest next.second).1 = next.observance := by
          rw [utcSince_near hr hg hrest (by omega) (by omega)]
        rw [hlt (next.second - 1) (by omega), hge next.second (by omega), hself]
        refine ⟨by omega, fun s hs hsu => ?_, fun s hs => ?_⟩
        · rw [hlt s hsu]
          omega
        · rw [hge s hs]
          exact utcSince_after hr hg hrest hs
      · rw [hge u (by omega), hge (u - 1) (by omega)] at *
        obtain ⟨hfar, hbefore, hafter⟩ := ih hrest (by omega) hu
        refine ⟨by omega, fun s hs hsu => ?_, fun s hs => ?_⟩
        · by_cases hs' : s < next.second
          · rw [hlt s hs']
            omega
          · rw [hge s (by omega)]
            exact hbefore s (by omega) hsu
        · rw [hge s (by omega)]
          exact hafter s hs

private theorem History.Separated.forth_order {h : History} (hsep : h.Separated) {u : Int}
    (hu : (h.atUtc (u - 1)).1.offset < (h.atUtc u).1.offset) :
    (∀ s < u, s + (h.atUtc s).1.offset < u + (h.atUtc (u - 1)).1.offset) ∧
      ∀ s, u ≤ s → u + (h.atUtc u).1.offset ≤ s + (h.atUtc s).1.offset := by
  obtain ⟨hrule, hchanges⟩ := hsep
  obtain ⟨low, high, forth, back, hr, hg⟩ := hrule.exists_swing
  cases hc : h.changes with
  | nil =>
    have e : h.atUtc = h.rule.atUtc := by
      funext s
      rw [History.atUtc, hc]
    rw [e] at hu ⊢
    exact hr.forth_order hu
  | cons c changes =>
    rw [hc] at hchanges
    have hsize := @Change.size_eq h.first c
    have hlt : ∀ s, s < c.second → (h.atUtc s).1 = h.first := by
      intro s hs
      rw [History.atUtc_of_lt hc hs]
    have hge : ∀ s, c.second ≤ s → (h.atUtc s).1 = (utcSince h.rule h.first c changes s).1 := by
      intro s hs
      rw [History.atUtc_of_le hc hs]
    by_cases hcu : u < c.second
    · rw [hlt u hcu, hlt (u - 1) (by omega)] at hu
      omega
    · by_cases he : u = c.second
      · subst he
        have hself : (utcSince h.rule h.first c changes c.second).1 = c.observance := by
          rw [utcSince_near hr hg hchanges (by omega) (by omega)]
        rw [hlt (c.second - 1) (by omega), hge c.second (by omega), hself]
        refine ⟨fun s hs => ?_, fun s hs => ?_⟩
        · rw [hlt s hs]
          omega
        · rw [hge s hs]
          exact utcSince_after hr hg hchanges hs
      · rw [hge u (by omega), hge (u - 1) (by omega)] at *
        obtain ⟨hfar, hbefore, hafter⟩ := utcSince_forth_order hr hg hchanges (by omega) hu
        refine ⟨fun s hs => ?_, fun s hs => ?_⟩
        · by_cases hs' : s < c.second
          · rw [hlt s hs']
            omega
          · rw [hge s (by omega)]
            exact hbefore s (by omega) hs
        · rw [hge s (by omega)]
          exact hafter s hs

namespace Zone

variable {z : Zone}

/-- Before the clocks are put forth they show only times before the gap, from then on only times after it. -/
theorem Separated.forth_order (h : z.Separated) {u : Int}
    (hu : (z.atUtc (u - 1)).1.offset < (z.atUtc u).1.offset) :
    (∀ s < u, s + (z.atUtc s).1.offset < u + (z.atUtc (u - 1)).1.offset) ∧
      ∀ s, u ≤ s → u + (z.atUtc u).1.offset ≤ s + (z.atUtc s).1.offset := by
  cases z with
  | fixed offset name => exact absurd hu (Int.lt_irrefl _)
  | region name history => exact History.Separated.forth_order h hu

/-! ### Local times that are shown and local times that are skipped -/

/-- The zone's clocks show the local second `l` at the UTC second `s`. -/
def Shows (z : Zone) (s l : Int) : Prop := s + (z.atUtc s).1.offset = l

/-- The zone's clocks are put forth at the UTC second `u` over the local second `l`. -/
def Skips (z : Zone) (u l : Int) : Prop := u + (z.atUtc (u - 1)).1.offset ≤ l ∧ l < u + (z.atUtc u).1.offset

/-- The length of the gap where the clocks are put forth at the UTC second `u`. -/
def gap (z : Zone) (u : Int) : Int := (z.atUtc u).1.offset - (z.atUtc (u - 1)).1.offset

/-- A local second that is skipped is never shown. -/
theorem Separated.not_shows_of_skips (h : z.Separated) {u s l : Int} (hu : z.Skips u l) : ¬z.Shows s l := by
  obtain ⟨hle, hlt⟩ := hu
  obtain ⟨hbefore, hafter⟩ := h.forth_order (u := u) (by omega)
  intro hs
  unfold Shows at hs
  by_cases hsu : s < u
  · have := hbefore s hsu
    omega
  · have := hafter s (by omega)
    omega

/-- A local second lies in one gap only. -/
theorem Separated.skips_unique (h : z.Separated) {u v l : Int} (hu : z.Skips u l) (hv : z.Skips v l) : u = v := by
  obtain ⟨hle, hlt⟩ := hu
  obtain ⟨hle', hlt'⟩ := hv
  obtain ⟨hbefore, -⟩ := h.forth_order (u := u) (by omega)
  obtain ⟨hbefore', -⟩ := h.forth_order (u := v) (by omega)
  rcases Int.lt_trichotomy u v with huv | huv | huv
  · have := hbefore' u huv
    omega
  · exact huv
  · have := hbefore v huv
    omega

/-- A local second that is read on its first pass was shown first with what it is read with, or it is skipped and read with
what was observed before. -/
theorem Separated.atLocal_cases (h : z.Separated) (l : Int) :
    (z.atUtc (l - (z.atLocal false l).offset) = (z.atLocal false l, false) ∧
      ∀ s, z.Shows s l → l - (z.atLocal false l).offset ≤ s) ∨
    ∃ u, z.Skips u l ∧ (z.atUtc (u - 1)).1 = z.atLocal false l ∧
      ∃ o : Observance, z.atUtc (l - (z.atLocal false l).offset) = (o, false) ∧ o.offset = (z.atUtc u).1.offset := by
  obtain ⟨hreads, hrepeats, hskips⟩ := h.coherent
  rcases hskips l with hl | ⟨u, ⟨hle, hlt, o, ho, hoff⟩, hbefore⟩
  · refine .inl ⟨hl, fun s hs => ?_⟩
    unfold Shows at hs
    -- a second pass comes after the first one, which the reading leads back to
    have hfirst : ∀ t, t + (z.atUtc t).1.offset = l → (z.atUtc t).2 = false → t = l - (z.atLocal false l).offset := by
      intro t ht hp
      have := hreads t
      rw [ht, hp] at this
      rw [this]
      omega
    cases hp : (z.atUtc s).2 with
    | false =>
      have := hfirst s hs hp
      omega
    | true =>
      obtain ⟨v, hvs, hsv, heq, hv⟩ := hrepeats s hp
      have := hfirst (s - ((z.atUtc (v - 1)).1.offset - (z.atUtc v).1.offset)) (by rw [hv]; dsimp only; omega)
        (by rw [hv])
      omega
  · rw [hbefore] at ho
    exact .inr ⟨u, ⟨hle, hlt⟩, hbefore, o, ho, hoff⟩

/-- The local seconds that are shown are those that are not skipped. -/
theorem Separated.shown_iff (h : z.Separated) (l : Int) : (∃ s, z.Shows s l) ↔ ¬∃ u, z.Skips u l := by
  constructor
  · rintro ⟨s, hs⟩ ⟨u, hu⟩
    exact h.not_shows_of_skips hu hs
  · intro hno
    rcases h.atLocal_cases l with ⟨hl, -⟩ | ⟨u, hu, -⟩
    · refine ⟨l - (z.atLocal false l).offset, ?_⟩
      unfold Shows
      rw [hl]
      dsimp only
      omega
    · exact absurd ⟨u, hu⟩ hno

/-- The local second `l` is read with `o`: that which was observed when `l` was first shown, or before the clocks were put
forth over `l`. -/
def ReadsWith (z : Zone) (l : Int) (o : Observance) : Prop :=
  (∃ s, z.Shows s l ∧ (∀ t, z.Shows t l → s ≤ t) ∧ o = (z.atUtc s).1) ∨
    ∃ u, z.Skips u l ∧ o = (z.atUtc (u - 1)).1

/-- What a local second is read with on its first pass is what was observed before the change that repeats or skips it. -/
theorem Separated.reads_atLocal (h : z.Separated) (l : Int) : z.ReadsWith l (z.atLocal false l) := by
  rcases h.atLocal_cases l with ⟨hl, hleast⟩ | ⟨u, hu, hbefore, -⟩
  · refine .inl ⟨l - (z.atLocal false l).offset, ?_, hleast, by rw [hl]⟩
    unfold Shows
    rw [hl]
    dsimp only
    omega
  · exact .inr ⟨u, hu, hbefore.symm⟩

end Zone

end CivilTime
