import CivilTime.Proofs.Text.Unique
import Mathlib.Data.List.Basic

/-!
# Changes that cutting does not see

A shape carries a change of texts if it cuts the changed text as it cuts the text, and leaves the changed rests
(`Shape.Carries`). Combined shapes carry what their parts carry. So every shape carries a change of characters that matching does
not see (`Shape.carries_map`), and text that is put after the end is carried by the shapes whose pieces cannot go on with it
(`Shape.Within.carries_append`).
-/

namespace CivilTime

/-- The cuts of a changed text are those of the text, with changed rests. -/
def Shape.Carries (anyCase : Bool) (change : List Char → List Char) (s : Shape) : Prop :=
  ∀ cs, s.cuts anyCase (change cs) = (s.cuts anyCase cs).map (Prod.map id change)

variable {anyCase : Bool} {change : List Char → List Char} {a b s : Shape}

/-! ### Combinations -/

theorem Shape.Carries.seq (ha : a.Carries anyCase change) (hb : b.Carries anyCase change) :
    (Shape.seq a b).Carries anyCase change := by
  intro cs
  simp only [cuts]
  rw [ha cs, List.flatMap_map, List.map_flatMap]
  congr 1
  funext cut
  cases cut with
  | mk n rest => simp [hb rest, Function.comp_def]

theorem Shape.Carries.either (ha : a.Carries anyCase change) (hb : b.Carries anyCase change) :
    (Shape.either a b).Carries anyCase change := by
  intro cs
  simp only [cuts]
  rw [ha cs, hb cs, List.map_append]

/-- Repeated cuts are carried if single ones are; more cuts than there are characters make no difference. -/
private theorem cutMany_carries {cut : List Char → List (Nat × List Char)}
    (hcut : ∀ cs, cut (change cs) = (cut cs).map (Prod.map id change))
    (hlen : ∀ cs n rest, (n, rest) ∈ cut cs → n + rest.length = cs.length) {bound bound' cs : List Char}
    (hb : cs.length ≤ bound.length) (hb' : bound.length ≤ bound'.length) :
    cutMany cut bound' (change cs) = (cutMany cut bound cs).map (Prod.map id change) := by
  induction bound generalizing bound' cs with
  | nil =>
    obtain rfl : cs = [] := List.eq_nil_of_length_eq_zero (Nat.le_zero.1 hb)
    cases bound' with
    | nil => rfl
    | cons d bound' =>
      -- only empty pieces are cut off an empty text
      have hempty : ∀ cut' ∈ cut [], cut'.1 = 0 := by
        intro ⟨n, rest⟩ hmem
        exact Nat.eq_zero_of_add_eq_zero_right (hlen [] n rest hmem)
      simp only [cutMany]
      rw [hcut, List.flatMap_map, List.flatMap_eq_nil_iff.2]
      · rfl
      · intro cut' hmem
        simp [hempty cut' hmem]
  | cons c bound ih =>
    cases bound' with
    | nil => exact absurd hb' (Nat.not_succ_le_zero _)
    | cons d bound' =>
      simp only [cutMany]
      rw [hcut, List.flatMap_map, List.map_append, List.map_flatMap]
      congr 1
      refine List.flatMap_congr ?_
      intro ⟨n, rest⟩ hmem
      have hrest := hlen cs n rest hmem
      simp only [List.length_cons] at hb hb'
      by_cases hn : n = 0
      · simp [hn]
      · simp [hn, ih (show rest.length ≤ bound.length by omega) (show bound.length ≤ bound'.length by omega),
          Function.comp_def]

theorem Shape.Carries.many (ha : a.Carries anyCase change) (hlen : ∀ cs, cs.length ≤ (change cs).length) :
    (Shape.many a).Carries anyCase change := by
  intro cs
  refine cutMany_carries ha (fun cs n rest hmem => ?_) (Nat.le_refl _) (hlen cs)
  obtain ⟨piece, rfl, rfl, -⟩ := mem_cuts_iff.1 hmem
  exact List.length_append.symm

/-! ### Other characters -/

section

variable {f : Char → Char}

private theorem restAfter?_map (hf : ∀ c, seenAs anyCase (f c) = seenAs anyCase c) (w cs : List Char) :
    restAfter? anyCase w (cs.map f) = (restAfter? anyCase w cs).map (List.map f) := by
  induction w generalizing cs with
  | nil => rfl
  | cons d w ih =>
    cases cs with
    | nil => rfl
    | cons c cs =>
      rw [List.map_cons, restAfter?, restAfter?, sameUpToCase_eq, sameUpToCase_eq, hf c, ih cs]
      split <;> rfl

private theorem cutRuns_map {accepts : Char → Bool} (hf : ∀ c, accepts (f c) = accepts c) (least : Nat)
    (most : Option Nat) (taken : Nat) (found : List (Nat × List Char)) (cs : List Char) :
    cutRuns accepts least most taken (found.map (Prod.map id (List.map f))) (cs.map f) =
      (cutRuns accepts least most taken found cs).map (Prod.map id (List.map f)) := by
  induction cs generalizing taken found with
  | nil =>
    simp only [List.map_nil, cutRuns]
    split <;> rfl
  | cons c cs ih =>
    have hfound : (if least ≤ taken then (taken, f c :: cs.map f) :: found.map (Prod.map id (List.map f))
        else found.map (Prod.map id (List.map f))) =
        (if least ≤ taken then (taken, c :: cs) :: found else found).map (Prod.map id (List.map f)) := by
      split <;> rfl
    simp only [List.map_cons, cutRuns]
    rw [hfound, hf c, ih]
    split <;> rfl

/-- Every shape carries a change of characters that matching does not see. -/
theorem Shape.carries_map (hf : ∀ c, seenAs anyCase (f c) = seenAs anyCase c) (s : Shape) :
    s.Carries anyCase (List.map f) := by
  induction s with
  | words ws =>
    intro cs
    simp only [cuts, restAfter?_map hf, List.map_filterMap, Option.map_map, Function.comp_def, Prod.map, id]
  | run k least most =>
    intro cs
    have haccepts : ∀ c, k.accepts anyCase (f c) = k.accepts anyCase c := fun c => congrArg k.holds (hf c)
    exact cutRuns_map haccepts least most 0 [] cs
  | seq a b iha ihb => exact iha.seq ihb
  | either a b iha ihb => exact iha.either ihb
  | many a iha => exact iha.many fun cs => Nat.le_of_eq (List.length_map f).symm

/-- The pieces of a text with other characters are the pieces of the text with other characters. -/
theorem cutAll_map (hf : ∀ c, seenAs anyCase (f c) = seenAs anyCase c) {accepts : List Char → Bool}
    (haccepts : ∀ cs, accepts (cs.map f) = accepts cs) (shapes : List Shape) (cs : List Char) :
    cutAll anyCase accepts shapes (cs.map f) = (cutAll anyCase accepts shapes cs).map (List.map (List.map f)) := by
  induction shapes generalizing cs with
  | nil =>
    rw [cutAll_nil, cutAll_nil, haccepts]
    split <;> rfl
  | cons s shapes ih =>
    rw [cutAll_cons, cutAll_cons, s.carries_map hf cs, List.findSome?_map, List.map_findSome?]
    congr 1
    funext ⟨n, rest⟩
    simp [ih rest, Function.comp_def, List.map_take]

end

/-! ### Text after the end -/

section

variable {P : Char → Prop} {suffix : List Char}

private theorem restAfter?_append_suffix (hP : ∀ c, P c → P (seenAs anyCase c))
    (hsuffix : ∀ c ∈ suffix.head?, ¬P (seenAs anyCase c)) {w : List Char} (hw : ∀ c ∈ w, P c) (cs : List Char) :
    restAfter? anyCase w (cs ++ suffix) = (restAfter? anyCase w cs).map (· ++ suffix) := by
  induction w generalizing cs with
  | nil => rfl
  | cons d w ih =>
    cases cs with
    | nil =>
      cases suffix with
      | nil => rfl
      | cons c suffix =>
        have hother : sameUpToCase anyCase d c = false := by
          rw [sameUpToCase_eq, beq_eq_false_iff_ne]
          intro he
          exact hsuffix c rfl (he ▸ hP d (hw d List.mem_cons_self))
        simp [restAfter?, hother]
    | cons c cs =>
      rw [List.cons_append, restAfter?, restAfter?, ih (fun c hc => hw c (List.mem_cons_of_mem _ hc))]
      split <;> rfl

private theorem cutRuns_append_suffix {accepts : Char → Bool} (hsuffix : ∀ c ∈ suffix.head?, accepts c = false)
    (least : Nat) (most : Option Nat) (taken : Nat) (found : List (Nat × List Char)) (cs : List Char) :
    cutRuns accepts least most taken (found.map (Prod.map id (· ++ suffix))) (cs ++ suffix) =
      (cutRuns accepts least most taken found cs).map (Prod.map id (· ++ suffix)) := by
  induction cs generalizing taken found with
  | nil =>
    have hfound : (if least ≤ taken then (taken, suffix) :: found.map (Prod.map id (· ++ suffix))
        else found.map (Prod.map id (· ++ suffix))) =
        (if least ≤ taken then (taken, []) :: found else found).map (Prod.map id (· ++ suffix)) := by
      split <;> rfl
    rw [List.nil_append]
    cases suffix with
    | nil => exact hfound
    | cons c suffix =>
      simp only [cutRuns]
      rw [hsuffix c rfl, Bool.false_and, if_neg Bool.false_ne_true]
      exact hfound
  | cons c cs ih =>
    have hfound : (if least ≤ taken then (taken, c :: (cs ++ suffix)) :: found.map (Prod.map id (· ++ suffix))
        else found.map (Prod.map id (· ++ suffix))) =
        (if least ≤ taken then (taken, c :: cs) :: found else found).map (Prod.map id (· ++ suffix)) := by
      split <;> rfl
    simp only [List.cons_append, cutRuns]
    rw [hfound, ih]
    split <;> rfl

/-- A shape carries text after the end that begins with none of the characters of its pieces. -/
theorem Shape.Within.carries_append (h : s.Within P) (hP : ∀ c, P c → P (seenAs anyCase c))
    (hsuffix : ∀ c ∈ suffix.head?, ¬P (seenAs anyCase c)) : s.Carries anyCase (· ++ suffix) := by
  induction s with
  | words ws =>
    intro cs
    simp only [cuts, List.map_filterMap]
    refine List.filterMap_congr fun w hw => ?_
    rw [restAfter?_append_suffix hP hsuffix (h w hw), Option.map_map, Option.map_map]
    rfl
  | run k least most =>
    intro cs
    refine cutRuns_append_suffix (fun c hc => ?_) least most 0 [] cs
    rw [← Bool.not_eq_true]
    exact fun haccepts => hsuffix c hc (h _ haccepts)
  | seq a b iha ihb => exact (iha h.1).seq (ihb h.2)
  | either a b iha ihb => exact (iha h.1).either (ihb h.2)
  | many a iha => exact (iha h).many fun cs => by simp

end

end CivilTime
