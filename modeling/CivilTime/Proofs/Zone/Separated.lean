import CivilTime.Proofs.Zone.Season
import CivilTime.Zone

/-!
# Separated changes

Where the changes of a region's clocks lie further apart than the sum of their sizes (`History.Separated`), the two ways
of asking what is observed, by UTC second and by local second, agree (`Coherent`): the local time that is shown at a
second leads back to what is observed then, the second pass of a local time comes after a first one, and a local time
that is read on its first pass was shown, or the clocks are put forth over it. The proof follows the list of changes; a
change and the next one bound the seconds between them (`utcSince`, `localSince`), and after the last change the closing
rule goes on (`ClosingRule.Continues`).
-/

namespace CivilTime

/-! ### Repeated and skipped local times -/

/-- The clocks are put back at the UTC second `u`, and the second `s` shows a local time for the second time. -/
structure RepeatsAt (atUtc : Int → Observance × Bool) (u s : Int) : Prop where
  le : u ≤ s
  lt : s < u + ((atUtc (u - 1)).1.offset - (atUtc u).1.offset)
  offset_eq : (atUtc s).1.offset = (atUtc u).1.offset
  first : atUtc (s - ((atUtc (u - 1)).1.offset - (atUtc u).1.offset)) = ((atUtc (u - 1)).1, false)

/-- The clocks are put forth at the UTC second `u` over the local second `l`. -/
structure SkipsAt (atUtc : Int → Observance × Bool) (u l : Int) : Prop where
  le : u + (atUtc (u - 1)).1.offset ≤ l
  lt : l < u + (atUtc u).1.offset
  later : ∃ o : Observance, atUtc (l - (atUtc (u - 1)).1.offset) = (o, false) ∧ o.offset = (atUtc u).1.offset

/-- What is observed at UTC seconds and what is observed at local seconds fit together. -/
structure Coherent (atUtc : Int → Observance × Bool) (atLocal : Bool → Int → Observance) : Prop where
  reads : ∀ s, atLocal (atUtc s).2 (s + (atUtc s).1.offset) = (atUtc s).1
  repeats : ∀ s, (atUtc s).2 = true → ∃ u, RepeatsAt atUtc u s
  skips : ∀ l, atUtc (l - (atLocal false l).offset) = (atLocal false l, false) ∨
    ∃ u, SkipsAt atUtc u l ∧ (atUtc (u - 1)).1 = atLocal false l

private theorem RepeatsAt.congr {f g : Int → Observance × Bool} {u s t : Int} (h : RepeatsAt f u s)
    (hfg : ∀ x, t ≤ x → g x = f x) (hu : t < u) (hs : t ≤ s - ((f (u - 1)).1.offset - (f u).1.offset)) :
    RepeatsAt g u s := by
  obtain ⟨hle, hlt, heq, hfirst⟩ := h
  constructor
  · exact hle
  · rw [hfg _ (by omega), hfg u (by omega)]
    exact hlt
  · rw [hfg _ (by omega), hfg u (by omega)]
    exact heq
  · rw [hfg (u - 1) (by omega), hfg u (by omega), hfg _ hs]
    exact hfirst

private theorem SkipsAt.congr {f g : Int → Observance × Bool} {u l t : Int} (h : SkipsAt f u l)
    (hfg : ∀ x, t ≤ x → g x = f x) (hu : t < u) : SkipsAt g u l := by
  obtain ⟨hle, hlt, hlater⟩ := h
  constructor
  · rw [hfg _ (by omega)]
    exact hle
  · rw [hfg _ (by omega)]
    exact hlt
  · rw [hfg (u - 1) (by omega), hfg u (by omega), hfg _ (by omega)]
    exact hlater

/-- A change back repeats the seconds right after it. -/
private theorem RepeatsAt.of_change {f : Int → Observance × Bool} {u s : Int} {before after : Observance}
    (hbefore : (f (u - 1)).1 = before) (hafter : ∀ t, u ≤ t → t ≤ s → (f t).1 = after)
    (hfirst : f (s - (before.offset - after.offset)) = (before, false)) (hus : u ≤ s)
    (hs : s < u + (before.offset - after.offset)) : RepeatsAt f u s := by
  have hat := hafter u (Int.le_refl u) hus
  constructor
  · exact hus
  · rw [hbefore, hat]
    exact hs
  · rw [hafter s hus (Int.le_refl s), hat]
  · rw [hbefore, hat]
    exact hfirst

/-- A change forth skips the local seconds right before those that it shows. -/
private theorem SkipsAt.of_change {f : Int → Observance × Bool} {u l : Int} {before after : Observance}
    (hbefore : (f (u - 1)).1 = before) (hafter : (f u).1 = after)
    (hlater : f (l - before.offset) = (after, false)) (hul : u + before.offset ≤ l) (hl : l < u + after.offset) :
    SkipsAt f u l := by
  constructor
  · rw [hbefore]
    exact hul
  · rw [hafter]
    exact hl
  · rw [hbefore, hafter]
    exact ⟨after, hlater, rfl⟩

/-! ### Separated histories -/

/-- The size of a change of the offset. -/
def Change.size (c : Change) (previous : Observance) : Nat := (c.observance.offset - previous.offset).natAbs

/-- The rule goes on from the last listed change: it observes the same, changes again no sooner than any change may follow
another, and knows of no greater offset right before. -/
structure ClosingRule.Continues (rule : ClosingRule) (previous : Observance) (last : Change) : Prop where
  after : ∀ s, last.second ≤ s → s ≤ last.second + last.size previous + rule.swing →
    (rule.atUtc s).1 = last.observance
  before : ∀ s, last.second - rule.swing ≤ s → s < last.second →
    (rule.atUtc s).1.offset ≤ max previous.offset last.observance.offset

/-- A change and those that follow it lie further apart than the sum of the sizes of neighbouring changes. -/
def ChangesSeparated (rule : ClosingRule) : Observance → Change → List Change → Prop
  | previous, c, [] => rule.Continues previous c
  | previous, c, next :: rest =>
    c.second + c.size previous + next.size c.observance < next.second ∧ ChangesSeparated rule c.observance next rest

/-- Consecutive changes of the clocks, listed or by the closing rule, lie further apart than the changes of the offset at
them. Where none is listed and the rule knows of none, there is one observance throughout. -/
def History.Separated (h : History) : Prop :=
  h.rule.Separated ∧ match h.changes with
    | [] => ∀ observance, h.rule = .steady observance → observance = h.first
    | c :: rest => ChangesSeparated h.rule h.first c rest

/-- The zone's changes are separated; a fixed offset has none. -/
def Zone.Separated : Zone → Prop
  | .fixed _ _ => True
  | .region _ history => history.Separated

/-- What is observed from a change on, at UTC seconds. -/
def utcSince (rule : ClosingRule) (previous : Observance) (c : Change) (changes : List Change) (s : Int) :
    Observance × Bool :=
  afterChange rule s previous c.second c.observance changes

/-- What is observed from a change on, at local seconds. -/
def localSince (rule : ClosingRule) (previous : Observance) (c : Change) (changes : List Change)
    (secondPass : Bool) (l : Int) : Observance :=
  afterLocalChange rule secondPass l (c.localSecond secondPass previous) c.observance changes

variable {rule : ClosingRule} {low high : Observance} {forth back : Int → Int} {previous : Observance} {c : Change}
  {changes : List Change}

theorem Change.size_eq : c.size previous = (c.observance.offset - previous.offset).natAbs := rfl

theorem utcSince_cons_of_lt {next : Change} {s : Int} (h : s < next.second) :
    utcSince rule previous c (next :: changes) s =
      (c.observance, decide (s - c.second < previous.offset - c.observance.offset)) := by
  unfold utcSince
  rw [afterChange, if_pos h]

theorem utcSince_cons_of_le {next : Change} {s : Int} (h : next.second ≤ s) :
    utcSince rule previous c (next :: changes) s = utcSince rule c.observance next changes s := by
  unfold utcSince
  rw [afterChange, if_neg (by omega)]

private theorem localSince_cons_of_lt {next : Change} {p : Bool} {l : Int} (h : l < next.localSecond p c.observance) :
    localSince rule previous c (next :: changes) p l = c.observance := by
  unfold localSince
  rw [afterLocalChange, if_pos h]

private theorem localSince_cons_of_le {next : Change} {p : Bool} {l : Int} (h : next.localSecond p c.observance ≤ l) :
    localSince rule previous c (next :: changes) p l = localSince rule c.observance next changes p l := by
  unfold localSince
  rw [afterLocalChange, if_neg (by omega)]

/-- Right after a change that is observed which it brings. -/
theorem utcSince_near (hr : Swing rule low high forth back) (hg : high.offset - low.offset = rule.swing)
    (h : ChangesSeparated rule previous c changes) {s : Int} (hs : c.second ≤ s)
    (hs' : s ≤ c.second + c.size previous) :
    utcSince rule previous c changes s =
      (c.observance, decide (s - c.second < previous.offset - c.observance.offset)) := by
  cases changes with
  | cons next rest =>
    have := h.1
    exact utcSince_cons_of_lt (by omega)
  | nil =>
    unfold utcSince
    rw [afterChange]
    split
    · rename_i e
      rw [e, Int.sub_self]
    · have hobs := h.after s hs (by omega)
      dsimp only
      rw [hobs, Prod.mk.injEq, Bool.eq_iff_iff]
      simp only [Bool.or_eq_true, decide_eq_true_eq]
      refine ⟨trivial, ?_, fun hlt => .inr (by omega)⟩
      rintro (hp | hp)
      · -- a change back by the rule alone: before it the rule's offset is not above that before the listed change
        obtain ⟨u, hu, hsu, hhigh, _, hlow, _⟩ := hr.repeats hp
        rw [hobs] at hlow
        by_cases hc : c.second < u
        · have := h.after (u - 1) (by omega) (by omega)
          rw [hhigh, hlow] at this
          rw [this] at hsu
          omega
        · have := h.before (u - 1) (by omega) (by omega)
          rw [hhigh, hlow] at this
          rw [hlow]
          omega
      · omega

/-! ### The local time leads back -/

private theorem utcSince_nil_reads (hr : Swing rule low high forth back) (hg : high.offset - low.offset = rule.swing)
    (h : rule.Continues previous c) {s : Int} (hs : c.second < s) {p : Bool}
    (hp : p = ((rule.atUtc s).2 || decide (s < c.second + (previous.offset - (rule.atUtc s).1.offset)))) :
    c.localSecond p previous ≤ s + (rule.atUtc s).1.offset ∧
      localSince rule previous c [] p (s + (rule.atUtc s).1.offset) = (rule.atUtc s).1 := by
  have hle := hr.le
  have hreads := hr.reads s
  have hsize := @Change.size_eq previous c
  rw [localSince, afterLocalChange]
  by_cases hobs : (rule.atUtc s).1 = c.observance
  · constructor
    · rw [hobs] at hp ⊢
      unfold Change.localSecond
      cases p with
      | true =>
        rw [if_pos rfl]
        omega
      | false =>
        simp only [Bool.false_eq, Bool.or_eq_false_iff, decide_eq_false_iff_not] at hp
        rw [if_neg (by decide)]
        omega
    · by_cases hl : s + (rule.atUtc s).1.offset = c.localSecond p previous
      · rw [if_pos hl, hobs]
      · rw [if_neg hl]
        by_cases hpass : (rule.atUtc s).2 = p
        · rw [← hpass, hreads]
        · have hlt : p = true ∧ s < c.second + (previous.offset - c.observance.offset) := by
            rw [hobs] at hp
            cases hq : (rule.atUtc s).2 with
            | true => simp_all
            | false => simp_all
          rw [hlt.1]
          refine hr.reads_second ?_
          rw [h.after _ (by omega) (by omega), hobs]
  · have hfar : c.second + c.size previous + rule.swing < s := by
      by_cases hs' : s ≤ c.second + c.size previous + rule.swing
      · exact absurd (h.after s (by omega) hs') hobs
      · omega
    have hclose : (c.observance.offset - (rule.atUtc s).1.offset).natAbs ≤ rule.swing := by
      rw [← h.after c.second (by omega) (by omega)]
      rcases hr.atUtc_eq_or s with e | e <;> rcases hr.atUtc_eq_or c.second with e' | e' <;> rw [e, e'] <;> omega
    have hpass : p = (rule.atUtc s).2 := by
      rw [hp, decide_eq_false (by omega), Bool.or_false]
    rw [← hpass] at hreads
    unfold Change.localSecond
    constructor
    · split <;> omega
    · rw [if_neg (by split <;> omega), hreads]

theorem utcSince_reads (hr : Swing rule low high forth back) (hg : high.offset - low.offset = rule.swing)
    (h : ChangesSeparated rule previous c changes) {s : Int} (hs : c.second ≤ s) {o : Observance} {p : Bool}
    (ho : utcSince rule previous c changes s = (o, p)) :
    c.localSecond p previous ≤ s + o.offset ∧ localSince rule previous c changes p (s + o.offset) = o := by
  induction changes generalizing previous c with
  | nil =>
    rw [utcSince, afterChange] at ho
    by_cases e : s = c.second
    · rw [if_pos e] at ho
      obtain ⟨rfl, rfl⟩ := ho
      unfold localSince Change.localSecond
      rw [afterLocalChange]
      by_cases hp : 0 < previous.offset - c.observance.offset
      · rw [decide_eq_true hp, if_pos rfl]
        refine ⟨by omega, if_pos (by omega)⟩
      · rw [decide_eq_false hp, if_neg (by decide)]
        refine ⟨by omega, if_pos (by omega)⟩
    · rw [if_neg e] at ho
      obtain ⟨rfl, hp⟩ := Prod.mk.injEq .. ▸ ho
      exact utcSince_nil_reads hr hg h (by omega) hp.symm
  | cons next rest ih =>
    obtain ⟨hgap, hrest⟩ := h
    have hsize := @Change.size_eq previous c
    have hsize' := @Change.size_eq c.observance next
    -- before the next change `c` is in force, and the threshold of the next one is not reached on either pass
    by_cases hnext : s < next.second
    · rw [utcSince_cons_of_lt hnext] at ho
      obtain ⟨rfl, rfl⟩ := ho
      by_cases hp : s - c.second < previous.offset - c.observance.offset
      · rw [decide_eq_true hp]
        refine ⟨?_, localSince_cons_of_lt ?_⟩
        · unfold Change.localSecond
          rw [if_pos rfl]
          omega
        · unfold Change.localSecond
          rw [if_pos rfl]
          omega
      · rw [decide_eq_false hp]
        refine ⟨?_, localSince_cons_of_lt ?_⟩
        · unfold Change.localSecond
          rw [if_neg (by decide)]
          omega
        · unfold Change.localSecond
          rw [if_neg (by decide)]
          omega
    · rw [utcSince_cons_of_le (by omega)] at ho
      obtain ⟨hle, heq⟩ := ih hrest (by omega) ho
      refine ⟨Int.le_trans ?_ hle, ?_⟩
      · unfold Change.localSecond
        split <;> omega
      · rw [localSince_cons_of_le hle, heq]

/-! ### Second passes -/

theorem utcSince_nil_of_lt {s : Int} (h : c.second < s) :
    utcSince rule previous c [] s = ((rule.atUtc s).1,
      (rule.atUtc s).2 || decide (s < c.second + (previous.offset - (rule.atUtc s).1.offset))) := by
  unfold utcSince
  rw [afterChange, if_neg (by omega)]

/-- From the last listed change on the rule decides. -/
theorem utcSince_nil_fst (h : rule.Continues previous c) {s : Int} (hs : c.second ≤ s) :
    (utcSince rule previous c [] s).1 = (rule.atUtc s).1 := by
  have hself := h.after c.second (by omega) (by omega)
  by_cases he : s = c.second
  · rw [he, hself, utcSince, afterChange, if_pos rfl]
  · rw [utcSince_nil_of_lt (by omega)]

private theorem utcSince_nil_repeats (hr : Swing rule low high forth back)
    (hg : high.offset - low.offset = rule.swing) (h : rule.Continues previous c) {s : Int} (hs : c.second < s)
    (hp : (rule.atUtc s).2 = true) :
    s < c.second + (previous.offset - c.observance.offset) ∨
      ∃ u, RepeatsAt (utcSince rule previous c []) u s ∧ c.second < u ∧
        c.second ≤ s - ((utcSince rule previous c [] (u - 1)).1.offset - (utcSince rule previous c [] u).1.offset) := by
  have hsize := @Change.size_eq previous c
  obtain ⟨u, hu, hsu, hhigh, hlow, hslow, hfirst⟩ := hr.repeats hp
  by_cases hcu : c.second < u
  · right
    have hfar : c.second + c.size previous + rule.swing < u := by
      by_cases hnear : u ≤ c.second + c.size previous + rule.swing
      · have e := h.after u (by omega) hnear
        have e' := h.after (u - 1) (by omega) (by omega)
        rw [hlow] at e
        rw [hhigh, ← e] at e'
        rw [e'] at hsu
        omega
      · omega
    have hu1 := @utcSince_nil_of_lt rule previous c (u - 1) (by omega)
    have hu2 := @utcSince_nil_of_lt rule previous c u hcu
    rw [hhigh] at hu1
    rw [hlow] at hu2
    refine ⟨u, ⟨hu, ?_, ?_, ?_⟩, hcu, ?_⟩
    · rw [hu1, hu2]
      exact hsu
    · rw [hu2, utcSince_nil_of_lt hs, hslow]
    · have hmax : c.observance.offset ≤ high.offset := by
        have hle := hr.le
        rw [← h.after c.second (by omega) (by omega)]
        rcases hr.atUtc_eq_or c.second with e | e
        · exact Int.le_trans (Int.le_of_eq (congrArg Observance.offset e)) hle
        · exact Int.le_of_eq (congrArg Observance.offset e)
      rw [hu1, hu2, utcSince_nil_of_lt (by dsimp only; omega), hfirst]
      dsimp only
      rw [decide_eq_false (by omega), Bool.false_or]
    · rw [hu1, hu2]
      dsimp only
      omega
  · left
    have hobs := h.after s (by omega) (by omega)
    rw [hslow] at hobs
    have := h.before (u - 1) (by omega) (by omega)
    rw [hhigh, ← hobs] at this
    rw [← hobs]
    omega

/-- The second pass of a local time belongs to the change itself or to one that comes later. -/
theorem utcSince_repeats (hr : Swing rule low high forth back) (hg : high.offset - low.offset = rule.swing)
    (h : ChangesSeparated rule previous c changes) {s : Int} (hs : c.second ≤ s)
    (hp : (utcSince rule previous c changes s).2 = true) :
    s < c.second + (previous.offset - c.observance.offset) ∨
      ∃ u, RepeatsAt (utcSince rule previous c changes) u s ∧ c.second < u ∧
        c.second ≤ s - ((utcSince rule previous c changes (u - 1)).1.offset -
          (utcSince rule previous c changes u).1.offset) := by
  induction changes generalizing previous c with
  | nil =>
    have hsize := @Change.size_eq previous c
    by_cases e : s = c.second
    · rw [utcSince_near hr hg h hs (by omega), decide_eq_true_eq] at hp
      exact .inl (by omega)
    · rw [utcSince_nil_of_lt (by omega), Bool.or_eq_true, decide_eq_true_eq] at hp
      rcases hp with hp | hp
      · exact utcSince_nil_repeats hr hg h (by omega) hp
      · by_cases hnear : s ≤ c.second + c.size previous + rule.swing
        · rw [h.after s hs hnear] at hp
          exact .inl hp
        · have hle := hr.le
          have hobs := h.after c.second (by omega) (by omega)
          rcases hr.atUtc_eq_or s with e | e <;> rcases hr.atUtc_eq_or c.second with e' | e' <;>
            rw [e] at hp <;> rw [e'] at hobs <;> rw [← hobs] at hsize <;> omega
  | cons next rest ih =>
    obtain ⟨hgap, hrest⟩ := h
    have hsize := @Change.size_eq previous c
    have hsize' := @Change.size_eq c.observance next
    by_cases hnext : s < next.second
    · rw [utcSince_cons_of_lt hnext, decide_eq_true_eq] at hp
      exact .inl (by omega)
    · right
      rw [utcSince_cons_of_le (by omega)] at hp
      -- a second pass that belongs to the next change is one of the whole list, seen from `c`
      rcases ih hrest (by omega) hp with hlt | ⟨u, hu, hcu, hsu⟩
      · have hbefore : (utcSince rule previous c (next :: rest) (next.second - 1)).1 = c.observance := by
          rw [utcSince_cons_of_lt (by omega)]
        have hafter : ∀ t, next.second ≤ t → t ≤ s →
            (utcSince rule previous c (next :: rest) t).1 = next.observance := by
          intro t ht hts
          rw [utcSince_cons_of_le ht, utcSince_near hr hg hrest ht (by omega)]
        refine ⟨next.second, RepeatsAt.of_change hbefore hafter ?_ (by omega) hlt, by omega, ?_⟩
        · rw [utcSince_cons_of_lt (by omega), decide_eq_false (by omega)]
        · rw [hbefore, hafter next.second (by omega) (by omega)]
          omega
      · have hcongr : ∀ x, next.second ≤ x →
            utcSince rule previous c (next :: rest) x = utcSince rule c.observance next rest x :=
          fun x hx => utcSince_cons_of_le hx
        refine ⟨u, hu.congr hcongr hcu hsu, by omega, ?_⟩
        rw [hcongr _ (by omega), hcongr _ (by omega)]
        omega

/-! ### First passes -/

private theorem utcSince_nil_skips (hr : Swing rule low high forth back) (hg : high.offset - low.offset = rule.swing)
    (h : rule.Continues previous c) {l : Int} (hl : c.second + max previous.offset c.observance.offset < l) :
    c.second ≤ l - (rule.atLocal false l).offset ∧
      (utcSince rule previous c [] (l - (rule.atLocal false l).offset) = (rule.atLocal false l, false) ∨
        ∃ u, SkipsAt (utcSince rule previous c []) u l ∧ c.second < u ∧
          (utcSince rule previous c [] (u - 1)).1 = rule.atLocal false l) := by
  have hle := hr.le
  have hobs := h.after c.second (by omega) (by omega)
  have htwo := hr.atUtc_eq_or c.second
  rw [hobs] at htwo
  rcases hr.skips l with hs | ⟨hlow, hs, u, hu1, hu2, hul, hlu⟩
  · generalize rule.atLocal false l = o at hs ⊢
    have hlt : c.second < l - o.offset := by
      by_cases hob : o.offset ≤ c.observance.offset
      · omega
      · by_cases hbefore : l - o.offset < c.second
        · -- the rule shows its greater offset right before the last change, which no change could end unseen
          have hhigh : o.offset - c.observance.offset ≤ rule.swing := by
            have hso := hr.atUtc_eq_or (l - o.offset)
            rw [hs] at hso
            rcases hso with e | e <;> rcases htwo with e' | e' <;> simp only at e <;> rw [e, e'] <;> omega
          have := h.before (l - o.offset) (by omega) hbefore
          rw [hs] at this
          simp only at this
          omega
        · by_cases he : l - o.offset = c.second
          · rw [he] at hs
            rw [hs] at hobs
            simp only at hobs
            rw [hobs] at hob
            omega
          · omega
    refine ⟨by omega, .inl ?_⟩
    rw [utcSince_nil_of_lt hlt, hs]
    dsimp only
    rw [decide_eq_false (by omega), Bool.false_or]
  · rw [hlow]
    have hlt : c.second < l - low.offset := by
      rcases htwo with e | e <;> rw [e] at hl <;> omega
    have hcu : c.second < u := by
      by_cases hcu : c.second < u
      · exact hcu
      · have hobs' := h.after (l - low.offset) (by omega) (by omega)
        rw [hs] at hobs'
        simp only at hobs'
        rw [← hobs'] at hl
        omega
    have hu1' : (utcSince rule previous c [] (u - 1)).1 = low := by
      by_cases he : u - 1 = c.second
      · rw [he] at hu1 ⊢
        rw [@utcSince_near _ _ _ _ _ previous c [] hr hg h _ (by omega) (by omega), ← hobs, hu1]
      · rw [utcSince_nil_of_lt (by omega), hu1]
    have hu2' : (utcSince rule previous c [] u).1 = high := by
      rw [utcSince_nil_of_lt hcu, hu2]
    refine ⟨by omega, .inr ⟨u, ⟨?_, ?_, high, ?_, ?_⟩, hcu, hu1'⟩⟩
    · rw [hu1']
      exact hul
    · rw [hu2']
      exact hlu
    · rw [hu1', utcSince_nil_of_lt hlt, hs]
      dsimp only
      rw [decide_eq_false (by omega), Bool.false_or]
    · rw [hu2']

/-- A local time read on its first pass leads to a second at which it was shown, or to a change that skips it. -/
theorem utcSince_skips (hr : Swing rule low high forth back) (hg : high.offset - low.offset = rule.swing)
    (h : ChangesSeparated rule previous c changes) {l : Int} (hl : c.localSecond false previous ≤ l) {o : Observance}
    (ho : localSince rule previous c changes false l = o) :
    c.second ≤ l - o.offset ∧ (utcSince rule previous c changes (l - o.offset) = (o, false) ∨
      ∃ u, SkipsAt (utcSince rule previous c changes) u l ∧ c.second < u ∧
        (utcSince rule previous c changes (u - 1)).1 = o) := by
  have hsize := @Change.size_eq previous c
  have hthr : c.localSecond false previous = c.second + max previous.offset c.observance.offset := rfl
  induction changes generalizing previous c with
  | nil =>
    rw [localSince, afterLocalChange] at ho
    by_cases e : l = c.localSecond false previous
    · rw [if_pos e] at ho
      subst ho
      refine ⟨by omega, .inl ?_⟩
      rw [utcSince_near hr hg h (by omega) (by omega), decide_eq_false (by omega)]
    · rw [if_neg e] at ho
      subst ho
      exact utcSince_nil_skips hr hg h (by omega)
  | cons next rest ih =>
    obtain ⟨hgap, hrest⟩ := h
    have hsize' := @Change.size_eq c.observance next
    have hthr' : next.localSecond false c.observance = next.second + max c.observance.offset next.observance.offset :=
      rfl
    by_cases hnext : l < next.localSecond false c.observance
    · rw [localSince_cons_of_lt hnext] at ho
      subst ho
      refine ⟨by omega, ?_⟩
      by_cases hs : l - c.observance.offset < next.second
      · left
        rw [utcSince_cons_of_lt hs, decide_eq_false (by omega)]
      · right
        have hbefore : (utcSince rule previous c (next :: rest) (next.second - 1)).1 = c.observance := by
          rw [utcSince_cons_of_lt (by omega)]
        have hafter : (utcSince rule previous c (next :: rest) next.second).1 = next.observance := by
          rw [utcSince_cons_of_le (by omega), utcSince_near hr hg hrest (by omega) (by omega)]
        refine ⟨next.second, SkipsAt.of_change hbefore hafter ?_ (by omega) (by omega), by omega, hbefore⟩
        rw [utcSince_cons_of_le (by omega), utcSince_near hr hg hrest (by omega) (by omega),
          decide_eq_false (by omega)]
    · rw [localSince_cons_of_le (by omega)] at ho
      have hcongr : ∀ x, next.second ≤ x →
          utcSince rule previous c (next :: rest) x = utcSince rule c.observance next rest x :=
        fun x hx => utcSince_cons_of_le hx
      obtain ⟨hle, hcase⟩ := ih hrest (by omega) ho hsize' hthr'
      refine ⟨by omega, ?_⟩
      rcases hcase with hs | ⟨u, hu, hcu, hob⟩
      · left
        rw [hcongr _ hle, hs]
      · right
        refine ⟨u, hu.congr hcongr hcu, by omega, ?_⟩
        rw [hcongr _ (by omega), hob]

/-! ### Whole histories -/

/-- Where nothing is listed, the rule alone decides. -/
private theorem ClosingRule.Separated.coherent (h : rule.Separated) : Coherent rule.atUtc rule.atLocal := by
  obtain ⟨low, high, forth, back, hr, hg⟩ := h.exists_swing
  constructor
  · exact hr.reads
  · intro s hs
    obtain ⟨u, hu, hsu, hhigh, hlow, hslow, hfirst⟩ := hr.repeats hs
    refine ⟨u, hu, ?_, ?_, ?_⟩
    · rw [hhigh, hlow]
      exact hsu
    · rw [hslow, hlow]
    · rw [hhigh, hlow, hfirst]
  · intro l
    rcases hr.skips l with hs | ⟨hlow, hs, u, hu1, hu2, hul, hlu⟩
    · exact .inl hs
    · refine .inr ⟨u, ⟨?_, ?_, high, ?_, ?_⟩, ?_⟩
      · rw [hu1]
        exact hul
      · rw [hu2]
        exact hlu
      · rw [hu1]
        exact hs
      · rw [hu2]
      · rw [hu1, hlow]

section Listed

variable {h : History} (hc : h.changes = c :: changes)

include hc

theorem History.atUtc_of_lt {s : Int} (hs : s < c.second) : h.atUtc s = (h.first, false) := by
  rw [History.atUtc, hc]
  exact if_pos hs

theorem History.atUtc_of_le {s : Int} (hs : c.second ≤ s) :
    h.atUtc s = utcSince h.rule h.first c changes s := by
  rw [History.atUtc, hc]
  exact if_neg (Int.not_lt.2 hs)

private theorem atLocal_of_lt {p : Bool} {l : Int} (hl : l < c.localSecond p h.first) : h.atLocal p l = h.first := by
  rw [History.atLocal, hc]
  exact if_pos hl

private theorem atLocal_of_le {p : Bool} {l : Int} (hl : c.localSecond p h.first ≤ l) :
    h.atLocal p l = localSince h.rule h.first c changes p l := by
  rw [History.atLocal, hc]
  exact if_neg (Int.not_lt.2 hl)

variable (hr : Swing h.rule low high forth back) (hg : high.offset - low.offset = h.rule.swing)
  (hsep : ChangesSeparated h.rule h.first c changes)

include hr hg hsep

private theorem atUtc_reads (s : Int) : h.atLocal (h.atUtc s).2 (s + (h.atUtc s).1.offset) = (h.atUtc s).1 := by
  by_cases hs : s < c.second
  · rw [History.atUtc_of_lt hc hs]
    refine atLocal_of_lt hc ?_
    unfold Change.localSecond
    rw [if_neg Bool.false_ne_true]
    dsimp only
    omega
  · obtain ⟨hle, heq⟩ := utcSince_reads hr hg hsep (s := s) (by omega) (Prod.eta _).symm
    rw [History.atUtc_of_le hc (by omega), atLocal_of_le hc hle]
    exact heq

private theorem atUtc_repeats {s : Int} (hp : (h.atUtc s).2 = true) : ∃ u, RepeatsAt h.atUtc u s := by
  have hsize := @Change.size_eq h.first c
  by_cases hs : s < c.second
  · rw [History.atUtc_of_lt hc hs] at hp
    cases hp
  · rw [History.atUtc_of_le hc (by omega)] at hp
    rcases utcSince_repeats hr hg hsep (by omega) hp with hlt | ⟨u, hu, hcu, hsu⟩
    · have hafter : ∀ t, c.second ≤ t → t ≤ s → (h.atUtc t).1 = c.observance := by
        intro t ht hts
        rw [History.atUtc_of_le hc ht, utcSince_near hr hg hsep ht (by omega)]
      refine ⟨c.second, RepeatsAt.of_change ?_ hafter ?_ (by omega) hlt⟩
      · rw [History.atUtc_of_lt hc (by omega)]
      · exact History.atUtc_of_lt hc (by omega)
    · exact ⟨u, hu.congr (fun x hx => History.atUtc_of_le hc hx) hcu hsu⟩

private theorem atUtc_skips (l : Int) :
    h.atUtc (l - (h.atLocal false l).offset) = (h.atLocal false l, false) ∨
      ∃ u, SkipsAt h.atUtc u l ∧ (h.atUtc (u - 1)).1 = h.atLocal false l := by
  have hsize := @Change.size_eq h.first c
  have hthr : c.localSecond false h.first = c.second + max h.first.offset c.observance.offset := rfl
  by_cases hl : l < c.localSecond false h.first
  · rw [atLocal_of_lt hc hl]
    by_cases hs : l - h.first.offset < c.second
    · exact .inl (History.atUtc_of_lt hc hs)
    · right
      have hbefore : (h.atUtc (c.second - 1)).1 = h.first := by
        rw [History.atUtc_of_lt hc (by omega)]
      have hafter : (h.atUtc c.second).1 = c.observance := by
        rw [History.atUtc_of_le hc (by omega), utcSince_near hr hg hsep (by omega) (by omega)]
      refine ⟨c.second, SkipsAt.of_change hbefore hafter ?_ (by omega) (by omega), hbefore⟩
      rw [History.atUtc_of_le hc (by omega), utcSince_near hr hg hsep (by omega) (by omega),
        decide_eq_false (by omega)]
  · rw [atLocal_of_le hc (by omega)]
    obtain ⟨hle, hcase⟩ := utcSince_skips hr hg hsep (l := l) (by omega) rfl
    rcases hcase with hs | ⟨u, hu, hcu, hob⟩
    · left
      rw [History.atUtc_of_le hc hle, hs]
    · right
      refine ⟨u, hu.congr (fun x hx => History.atUtc_of_le hc hx) hcu, ?_⟩
      rw [History.atUtc_of_le hc (by omega), hob]

end Listed

/-- What a region with separated changes observes at UTC seconds and at local seconds fits together. -/
theorem History.Separated.coherent {h : History} (hsep : h.Separated) : Coherent h.atUtc h.atLocal := by
  obtain ⟨hrule, hchanges⟩ := hsep
  cases hc : h.changes with
  | nil =>
    have e : h.atUtc = h.rule.atUtc := by
      funext s
      rw [History.atUtc, hc]
    have e' : h.atLocal = h.rule.atLocal := by
      funext p l
      rw [History.atLocal, hc]
    rw [e, e']
    exact hrule.coherent
  | cons c changes =>
    obtain ⟨low, high, forth, back, hr, hg⟩ := hrule.exists_swing
    rw [hc] at hchanges
    constructor
    · exact atUtc_reads hc hr hg hchanges
    · exact fun s hp => atUtc_repeats hc hr hg hchanges hp
    · exact atUtc_skips hc hr hg hchanges

/-- What a zone with separated changes observes at UTC seconds and at local seconds fits together. -/
theorem Zone.Separated.coherent {z : Zone} (h : z.Separated) : Coherent z.atUtc z.atLocal := by
  cases z with
  | fixed offset name =>
    exact ⟨fun _ => rfl, fun _ hs => absurd hs (by simp [Zone.atUtc]), fun _ => .inl rfl⟩
  | region name history => exact History.Separated.coherent h

end CivilTime
