import CivilTime.Proofs.Zone.Separated

/-!
# What is in effect

What is in effect in a zone at a UTC second is what the last change up to that second brought, be it a listed change or
one of the closing rule in some year, and before all changes what was observed first (`Zone.InEffect`). What a zone with
separated changes is found to observe is in effect (`Zone.Separated.inEffect_atUtc`).
-/

namespace CivilTime

variable {rule : ClosingRule} {standard season : Observance} {start finish : YearlyTime} {previous : Observance}
  {c : Change} {changes : List Change}

/-! ### Changes -/

/-- The rule brings an observance at a UTC second of some year. -/
def ClosingRule.Brings : ClosingRule → Int → Observance → Prop
  | .steady _, _, _ => False
  | .seasonal standard season start finish, t, o =>
    ∃ year, (t = start.second year - standard.offset ∧ o = season) ∨
      (t = finish.second year - season.offset ∧ o = standard)

/-- A region changes to an observance at a UTC second: the change is listed, or comes by the rule after all those that are
listed. -/
def History.Brings (h : History) (t : Int) (o : Observance) : Prop :=
  (∃ c ∈ h.changes, t = c.second ∧ o = c.observance) ∨ ((∀ c ∈ h.changes, c.second < t) ∧ h.rule.Brings t o)

/-- A region observes `o` at a UTC second, if it keeps to the last change. -/
def History.InEffect (h : History) (s : Int) (o : Observance) : Prop :=
  (∃ t ≤ s, h.Brings t o ∧ ∀ t' o', h.Brings t' o' → t' ≤ t ∨ s < t') ∨ ((∀ t o', h.Brings t o' → s < t) ∧ o = h.first)

/-- The observance `o` is in effect at a UTC second. -/
def Zone.InEffect : Zone → Int → Observance → Prop
  | .fixed offset name, _, o => o = ⟨offset, name⟩
  | .region _ history, s, o => history.InEffect s o

/-! ### Rules -/

/-- The changes of the rule before a second are told by that year and the year before. -/
private theorem SeasonsSeparated.latest_of (h : SeasonsSeparated standard season start finish) {s t : Int}
    (ht : newYear (yearOfSecond s - 1) ≤ t)
    (hlast : ∀ year, year = yearOfSecond s - 1 ∨ year = yearOfSecond s →
      (start.second year - standard.offset ≤ t ∨ s < start.second year - standard.offset) ∧
        (finish.second year - season.offset ≤ t ∨ s < finish.second year - season.offset)) :
    ∀ t' o', (ClosingRule.seasonal standard season start finish).Brings t' o' → t' ≤ t ∨ s < t' := by
  rintro t' o' ⟨year, hyear⟩
  obtain ⟨-, hb'⟩ := yearOfSecond_bounds s
  have hstart := h.start_inside year
  have hfinish := h.finish_inside year
  have hstandard := h.standard_lt
  have hseason := h.season_lt
  by_cases hbefore : year < yearOfSecond s - 1
  · have := newYear_le (show year + 1 ≤ yearOfSecond s - 1 by omega)
    omega
  · by_cases hafter : yearOfSecond s < year
    · have := newYear_le (show yearOfSecond s + 1 ≤ year by omega)
      omega
    · obtain ⟨h1, h2⟩ := hlast year (by omega)
      rcases hyear with ⟨rfl, -⟩ | ⟨rfl, -⟩
      · exact h1
      · exact h2

private theorem SeasonsSeparated.exists_latest (h : SeasonsSeparated standard season start finish) (s : Int) :
    ∃ t ≤ s, (ClosingRule.seasonal standard season start finish).Brings t
        ((ClosingRule.seasonal standard season start finish).atUtc s).1 ∧
      ∀ t' o', (ClosingRule.seasonal standard season start finish).Brings t' o' → t' ≤ t ∨ s < t' := by
  obtain ⟨hb, hb'⟩ := yearOfSecond_bounds s
  have hstart := h.start_inside (yearOfSecond s)
  have hfinish := h.finish_inside (yearOfSecond s)
  have hstart' := h.start_inside (yearOfSecond s - 1)
  have hfinish' := h.finish_inside (yearOfSecond s - 1)
  have hstandard := h.standard_lt
  have hseason := h.season_lt
  have hlatest := fun t => @SeasonsSeparated.latest_of _ _ _ _ h s t
  rw [show yearOfSecond s - 1 + 1 = yearOfSecond s by omega] at hstart' hfinish'
  rw [h.atUtc_near (y := yearOfSecond s) (by omega) (by omega)]
  generalize yearOfSecond s = year at *
  rcases h.apart with hap | hap
  · have hap1 := hap year
    have hap2 := hap (year - 1)
    by_cases h1 : s < start.second year - standard.offset
    · refine ⟨finish.second (year - 1) - season.offset, by omega, ⟨year - 1, .inr ⟨rfl, if_neg ?_⟩⟩,
        hlatest _ (by omega) ?_⟩
      · rw [inSeason_iff]
        omega
      · rintro y (rfl | rfl) <;> omega
    · by_cases h2 : s < finish.second year - season.offset
      · refine ⟨start.second year - standard.offset, by omega, ⟨year, .inl ⟨rfl, if_pos ?_⟩⟩,
          hlatest _ (by omega) ?_⟩
        · rw [inSeason_iff]
          omega
        · rintro y (rfl | rfl) <;> omega
      · refine ⟨finish.second year - season.offset, by omega, ⟨year, .inr ⟨rfl, if_neg ?_⟩⟩,
          hlatest _ (by omega) ?_⟩
        · rw [inSeason_iff]
          omega
        · rintro y (rfl | rfl) <;> omega
  · have hap1 := hap year
    have hap2 := hap (year - 1)
    by_cases h1 : s < finish.second year - season.offset
    · refine ⟨start.second (year - 1) - standard.offset, by omega, ⟨year - 1, .inl ⟨rfl, if_pos ?_⟩⟩,
        hlatest _ (by omega) ?_⟩
      · rw [inSeason_iff]
        omega
      · rintro y (rfl | rfl) <;> omega
    · by_cases h2 : s < start.second year - standard.offset
      · refine ⟨finish.second year - season.offset, by omega, ⟨year, .inr ⟨rfl, if_neg ?_⟩⟩,
          hlatest _ (by omega) ?_⟩
        · rw [inSeason_iff]
          omega
        · rintro y (rfl | rfl) <;> omega
      · refine ⟨start.second year - standard.offset, by omega, ⟨year, .inl ⟨rfl, if_pos ?_⟩⟩,
          hlatest _ (by omega) ?_⟩
        · rw [inSeason_iff]
          omega
        · rintro y (rfl | rfl) <;> omega

private theorem ClosingRule.Separated.brings_unique (h : rule.Separated) {t : Int} {o o' : Observance}
    (ho : rule.Brings t o) (ho' : rule.Brings t o') : o = o' := by
  cases rule with
  | steady observance => cases ho
  | seasonal standard season start finish =>
    have hsep : SeasonsSeparated standard season start finish := h
    have hyear : ∀ year, (t = start.second year - standard.offset ∨ t = finish.second year - season.offset) →
        year = yearOfSecond t := by
      intro year hy
      have hstart := hsep.start_inside year
      have hfinish := hsep.finish_inside year
      have hstandard := hsep.standard_lt
      have hseason := hsep.season_lt
      exact (yearOfSecond_eq (by omega) (by omega)).symm
    obtain ⟨year, hy⟩ := ho
    obtain ⟨year', hy'⟩ := ho'
    have e := hyear year (hy.imp And.left And.left)
    have e' := hyear year' (hy'.imp And.left And.left)
    have hne := hsep.start_ne_finish year
    rw [← e] at e'
    subst e'
    rcases hy with ⟨ht, rfl⟩ | ⟨ht, rfl⟩ <;> rcases hy' with ⟨ht', rfl⟩ | ⟨ht', rfl⟩
    · rfl
    · omega
    · omega
    · rfl

/-- Between changes of the rule nothing else is observed. -/
private theorem ClosingRule.Separated.atUtc_eq (h : rule.Separated) {a s : Int} (has : a ≤ s)
    (hno : ∀ t o, rule.Brings t o → t ≤ a ∨ s < t) : (rule.atUtc s).1 = (rule.atUtc a).1 := by
  cases rule with
  | steady observance => rfl
  | seasonal standard season start finish =>
    obtain ⟨t, hts, ht, hlast⟩ := SeasonsSeparated.exists_latest h s
    obtain ⟨t', hta, ht', hlast'⟩ := SeasonsSeparated.exists_latest h a
    have hle := hno _ _ ht
    have hle' := hlast _ _ ht'
    have := hlast' _ _ ht
    have e : t = t' := by omega
    subst e
    exact ClosingRule.Separated.brings_unique h ht ht'

/-! ### Histories -/

private theorem ChangesSeparated.lt (h : ChangesSeparated rule previous c changes) :
    ∀ c' ∈ changes, c.second < c'.second := by
  induction changes generalizing previous c with
  | nil => simp
  | cons next rest ih =>
    obtain ⟨hgap, hrest⟩ := h
    intro c' hc'
    rcases List.mem_cons.1 hc' with rfl | hmem
    · omega
    · have := ih hrest c' hmem
      omega

private theorem utcSince_nil_latest (hrule : rule.Separated) (h : rule.Continues previous c) {s : Int}
    (hs : c.second ≤ s) :
    ∃ t, c.second ≤ t ∧ t ≤ s ∧ History.Brings ⟨previous, [c], rule⟩ t (utcSince rule previous c [] s).1 ∧
      ∀ t' o', History.Brings ⟨previous, [c], rule⟩ t' o' → t' ≤ t ∨ s < t' := by
  have hself := h.after c.second (by omega) (by omega)
  have hbrings : ∀ t o, History.Brings ⟨previous, [c], rule⟩ t o ↔
      (t = c.second ∧ o = c.observance) ∨ (c.second < t ∧ rule.Brings t o) := by
    intro t o
    simp [History.Brings]
  rw [utcSince_nil_fst h hs]
  -- the latest change is `c` itself, or one that the rule brings after it
  by_cases hno : ∀ t o, rule.Brings t o → t ≤ c.second ∨ s < t
  · refine ⟨c.second, by omega, hs, (hbrings _ _).2 (.inl ⟨rfl, ?_⟩), fun t' o' ht' => ?_⟩
    · rw [hrule.atUtc_eq hs hno, hself]
    · rcases (hbrings _ _).1 ht' with ⟨rfl, -⟩ | ⟨-, hb⟩
      · exact .inl (by omega)
      · exact hno _ _ hb
  · obtain ⟨t₀, hno⟩ := Classical.not_forall.1 hno
    obtain ⟨o₀, hno⟩ := Classical.not_forall.1 hno
    obtain ⟨hb₀, hin⟩ := Classical.not_imp.1 hno
    cases rule with
    | steady observance => cases hb₀
    | seasonal standard season start finish =>
      obtain ⟨t, hts, hb, hlast⟩ := SeasonsSeparated.exists_latest hrule s
      have := hlast _ _ hb₀
      refine ⟨t, by omega, hts, (hbrings _ _).2 (.inr ⟨by omega, hb⟩), fun t' o' ht' => ?_⟩
      rcases (hbrings _ _).1 ht' with ⟨rfl, -⟩ | ⟨-, hb'⟩
      · exact .inl (by omega)
      · exact hlast _ _ hb'

private theorem utcSince_latest (hrule : rule.Separated) (h : ChangesSeparated rule previous c changes) {s : Int}
    (hs : c.second ≤ s) :
    ∃ t, c.second ≤ t ∧ t ≤ s ∧
      History.Brings ⟨previous, c :: changes, rule⟩ t (utcSince rule previous c changes s).1 ∧
      ∀ t' o', History.Brings ⟨previous, c :: changes, rule⟩ t' o' → t' ≤ t ∨ s < t' := by
  induction changes generalizing previous c with
  | nil => exact utcSince_nil_latest hrule h hs
  | cons next rest ih =>
    have hlt := h.lt
    obtain ⟨hgap, hrest⟩ := h
    have hnext := hlt next List.mem_cons_self
    by_cases hsn : s < next.second
    · rw [utcSince_cons_of_lt hsn]
      refine ⟨c.second, by omega, hs, .inl ⟨c, List.mem_cons_self, rfl, rfl⟩, fun t' o' ht' => ?_⟩
      rcases ht' with ⟨c', hc', rfl, -⟩ | ⟨hafter, -⟩
      · rcases List.mem_cons.1 hc' with rfl | hc'
        · exact .inl (by omega)
        · rcases List.mem_cons.1 hc' with rfl | hc'
          · exact .inr hsn
          · have := hrest.lt c' hc'
            exact .inr (by omega)
      · have := hafter next (List.mem_cons_of_mem _ List.mem_cons_self)
        exact .inr (by omega)
    · obtain ⟨t, hnt, hts, hb, hlast⟩ := ih hrest (by omega)
      rw [utcSince_cons_of_le (by omega)]
      refine ⟨t, by omega, hts, ?_, fun t' o' ht' => ?_⟩
      · rcases hb with ⟨c', hc', he⟩ | ⟨hafter, hb⟩
        · exact .inl ⟨c', List.mem_cons_of_mem _ hc', he⟩
        · refine .inr ⟨fun c' hc' => ?_, hb⟩
          rcases List.mem_cons.1 hc' with rfl | hc'
          · omega
          · exact hafter c' hc'
      · rcases ht' with ⟨c', hc', he, ho⟩ | ⟨hafter, hb'⟩
        · rcases List.mem_cons.1 hc' with rfl | hc'
          · exact .inl (by omega)
          · exact hlast _ _ (.inl ⟨c', hc', he, ho⟩)
        · exact hlast _ _ (.inr ⟨fun c' hc' => hafter c' (List.mem_cons_of_mem _ hc'), hb'⟩)

private theorem History.Separated.inEffect_atUtc {h : History} (hsep : h.Separated) (s : Int) :
    h.InEffect s (h.atUtc s).1 := by
  obtain ⟨hrule, hchanges⟩ := hsep
  obtain ⟨first, changes, rule⟩ := h
  cases changes with
  | nil =>
    have hbrings : ∀ t o, History.Brings ⟨first, [], rule⟩ t o ↔ rule.Brings t o := by
      intro t o
      simp [History.Brings]
    cases rule with
    | steady observance => exact .inr ⟨fun t o' ht => absurd ((hbrings t o').1 ht) id, hchanges observance rfl⟩
    | seasonal standard season start finish =>
      obtain ⟨t, hts, hb, hlast⟩ := SeasonsSeparated.exists_latest hrule s
      exact .inl ⟨t, hts, (hbrings _ _).2 hb, fun t' o' ht' => hlast t' o' ((hbrings _ _).1 ht')⟩
  | cons c changes =>
    have hsorted := ChangesSeparated.lt hchanges
    by_cases hs : s < c.second
    · rw [History.atUtc_of_lt rfl hs]
      refine .inr ⟨fun t o' ht => ?_, rfl⟩
      rcases ht with ⟨c', hc', rfl, -⟩ | ⟨hafter, -⟩
      · rcases List.mem_cons.1 hc' with rfl | hc'
        · exact hs
        · have := hsorted c' hc'
          omega
      · have := hafter c List.mem_cons_self
        omega
    · rw [History.atUtc_of_le rfl (by omega)]
      obtain ⟨t, -, hts, hb, hlast⟩ := utcSince_latest hrule hchanges (s := s) (by omega)
      exact .inl ⟨t, hts, hb, hlast⟩

/-- What a zone is found to observe is in effect. -/
theorem Zone.Separated.inEffect_atUtc {z : Zone} (h : z.Separated) (s : Int) : z.InEffect s (z.atUtc s).1 := by
  cases z with
  | fixed offset name => rfl
  | region name history => exact History.Separated.inEffect_atUtc h s

end CivilTime
