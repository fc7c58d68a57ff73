import CivilTime.Text.Shape

/-!
# Cuts and matches

Cutting finds exactly the pieces of a shape: what a cut takes off the front of a text matches the shape, and every piece
at the front that matches is found (`Shape.mem_cuts_iff`). Collecting the cuts at a place of a text gives the same cuts in
the same order (`Shape.addCuts_eq`).
-/

namespace CivilTime

/-! ### Words and runs -/

theorem restAfter?_eq_some_iff {anyCase : Bool} {w cs rest : List Char} :
    restAfter? anyCase w cs = some rest ↔
      ∃ piece, piece.length = w.length ∧ cs = piece ++ rest ∧ sameTexts anyCase w piece = true := by
  induction w generalizing cs with
  | nil =>
    simp only [restAfter?, Option.some.injEq, List.length_nil, List.length_eq_zero_iff]
    constructor
    · rintro rfl
      exact ⟨[], rfl, rfl, rfl⟩
    · rintro ⟨_, rfl, rfl, _⟩
      rfl
  | cons a w ih =>
    cases cs with
    | nil =>
      simp only [restAfter?, reduceCtorEq, List.length_cons, false_iff]
      rintro ⟨piece, hl, e, _⟩
      have := congrArg List.length e
      simp only [List.length_nil, List.length_append] at this
      omega
    | cons c cs =>
      unfold restAfter?
      constructor
      · intro h
        split at h
        · rename_i hc
          obtain ⟨piece, hl, rfl, hw⟩ := ih.1 h
          exact ⟨c :: piece, by simp [hl], rfl, by simp [sameTexts, hc, hw]⟩
        · cases h
      · rintro ⟨piece, hl, e, hw⟩
        cases piece with
        | nil => simp at hl
        | cons d piece =>
          simp only [List.cons_append, List.cons.injEq] at e
          obtain ⟨rfl, rfl⟩ := e
          simp only [sameTexts, Bool.and_eq_true] at hw
          rw [if_pos hw.1]
          exact ih.2 ⟨piece, by simpa using hl, rfl, hw.2⟩

/-- Texts that agree have the same length. -/
theorem length_eq_of_sameTexts {anyCase : Bool} {as bs : List Char} (h : sameTexts anyCase as bs = true) :
    as.length = bs.length := by
  induction as generalizing bs with
  | nil => cases bs <;> simp_all [sameTexts]
  | cons a as ih =>
    cases bs with
    | nil => simp [sameTexts] at h
    | cons b bs =>
      simp only [sameTexts, Bool.and_eq_true] at h
      simp [ih h.2]

/-- Letter by letter, texts agree only with themselves. -/
theorem sameTexts_false {as bs : List Char} : sameTexts false as bs = true ↔ as = bs := by
  induction as generalizing bs with
  | nil => cases bs <;> simp [sameTexts]
  | cons a as ih => cases bs <;> simp [sameTexts, sameUpToCase_false, ih]

/-! ### The texts of a shape -/

theorem Shape.matches_words_iff {anyCase : Bool} {ws : List (List Char)} {cs : List Char} :
    (Shape.words ws).Matches anyCase cs ↔ ∃ w ∈ ws, sameTexts anyCase w cs = true := by
  constructor
  · intro h
    cases h with
    | words hw hsame => exact ⟨_, hw, hsame⟩
  · rintro ⟨w, hw, hsame⟩
    exact .words hw hsame

theorem Shape.matches_run_iff {anyCase : Bool} {k : CharClass} {least : Nat} {most : Option Nat} {cs : List Char} :
    (Shape.run k least most).Matches anyCase cs ↔
      (∀ c ∈ cs, k.accepts anyCase c = true) ∧ least ≤ cs.length ∧ ∀ m ∈ most, cs.length ≤ m := by
  constructor
  · intro h
    cases h with
    | run hall hleast hmost => exact ⟨hall, hleast, hmost⟩
  · rintro ⟨hall, hleast, hmost⟩
    exact .run hall hleast hmost

/-! ### Cuts of a run -/

private theorem mem_cutRuns_iff {accepts : Char → Bool} {least : Nat} {most : Option Nat} {taken : Nat}
    {found : List (Nat × List Char)} {cs : List Char} (hm : ∀ m ∈ most, taken ≤ m) {n : Nat} {rest : List Char} :
    (n, rest) ∈ cutRuns accepts least most taken found cs ↔
      (n, rest) ∈ found ∨ ∃ piece, n = taken + piece.length ∧ cs = piece ++ rest ∧
        (∀ c ∈ piece, accepts c = true) ∧ least ≤ n ∧ ∀ m ∈ most, n ≤ m := by
  induction cs generalizing taken found with
  | nil =>
    have here : (∃ piece : List Char, n = taken + piece.length ∧ [] = piece ++ rest ∧
        (∀ c ∈ piece, accepts c = true) ∧ least ≤ n ∧ ∀ m ∈ most, n ≤ m) ↔ least ≤ taken ∧ n = taken ∧ rest = [] := by
      constructor
      · rintro ⟨piece, hn, e, _, hl, _⟩
        simp only [List.nil_eq, List.append_eq_nil_iff] at e
        obtain ⟨rfl, rfl⟩ := e
        simp only [List.length_nil, Nat.add_zero] at hn
        exact ⟨hn ▸ hl, hn, rfl⟩
      · rintro ⟨hl, rfl, rfl⟩
        exact ⟨[], rfl, rfl, by simp, hl, hm⟩
    rw [here]
    unfold cutRuns
    split
    · rename_i hl
      simp [hl, or_comm]
    · rename_i hl
      simp [hl]
  | cons c cs ih =>
    have found_iff : (n, rest) ∈ (if least ≤ taken then (taken, c :: cs) :: found else found) ↔
        (n, rest) ∈ found ∨ (least ≤ taken ∧ n = taken ∧ rest = c :: cs) := by
      split
      · rename_i hl
        simp [hl, or_comm]
      · rename_i hl
        simp [hl]
    simp only [cutRuns]
    split
    · rename_i hc
      simp only [Bool.and_eq_true, Option.all_eq_true, decide_eq_true_eq] at hc
      rw [ih fun m h => hc.2 m h, found_iff, or_assoc]
      refine or_congr Iff.rfl ?_
      constructor
      · rintro (⟨hl, rfl, rfl⟩ | ⟨piece, rfl, rfl, hall, hl, hmost⟩)
        · exact ⟨[], rfl, rfl, by simp, hl, hm⟩
        · refine ⟨c :: piece, by simp only [List.length_cons]; omega, rfl, ?_, hl, hmost⟩
          intro d hd
          rcases List.mem_cons.1 hd with rfl | hd
          · exact hc.1
          · exact hall d hd
      · rintro ⟨piece, rfl, e, hall, hl, hmost⟩
        cases piece with
        | nil => exact .inl ⟨hl, rfl, e.symm⟩
        | cons d piece =>
          simp only [List.cons_append, List.cons.injEq] at e
          obtain ⟨rfl, rfl⟩ := e
          refine .inr ⟨piece, by simp only [List.length_cons]; omega, rfl, fun d hd => hall d (by simp [hd]), hl, hmost⟩
    · rename_i hc
      rw [found_iff]
      refine or_congr Iff.rfl ?_
      constructor
      · rintro ⟨hl, rfl, rfl⟩
        exact ⟨[], rfl, rfl, by simp, hl, hm⟩
      · rintro ⟨piece, rfl, e, hall, hl, hmost⟩
        cases piece with
        | nil => exact ⟨hl, rfl, e.symm⟩
        | cons d piece =>
          simp only [List.cons_append, List.cons.injEq] at e
          obtain ⟨rfl, rfl⟩ := e
          refine absurd ?_ hc
          simp only [Bool.and_eq_true, Option.all_eq_true, decide_eq_true_eq]
          refine ⟨hall c (by simp), fun m h => ?_⟩
          have := hmost m h
          simp only [List.length_cons] at this
          omega

/-! ### Repetition -/

/-- The texts that are made of pieces with a property, none of them empty. -/
private inductive Repeated (P : List Char → Prop) : List Char → Prop where
  | none : Repeated P []
  | more {piece cs} : piece ≠ [] → P piece → Repeated P cs → Repeated P (piece ++ cs)

/-- A function that lists the lengths of the pieces with a property at the front of a text, with what follows them. -/
private def CutsPieces (cut : List Char → List (Nat × List Char)) (P : List Char → Prop) : Prop :=
  ∀ cs n rest, (n, rest) ∈ cut cs ↔ ∃ piece, n = piece.length ∧ cs = piece ++ rest ∧ P piece

private theorem mem_cutMany_iff {cut : List Char → List (Nat × List Char)} {P : List Char → Prop}
    (hcut : CutsPieces cut P) {bound cs : List Char} (hb : cs.length ≤ bound.length) {n : Nat} {rest : List Char} :
    (n, rest) ∈ cutMany cut bound cs ↔ ∃ pieces, n = pieces.length ∧ cs = pieces ++ rest ∧ Repeated P pieces := by
  induction bound generalizing cs n with
  | nil =>
    have : cs = [] := List.eq_nil_of_length_eq_zero (by simpa using hb)
    subst this
    simp only [cutMany, List.mem_singleton, Prod.mk.injEq, List.nil_eq, List.append_eq_nil_iff]
    constructor
    · rintro ⟨rfl, rfl⟩
      exact ⟨[], rfl, ⟨rfl, rfl⟩, .none⟩
    · rintro ⟨_, rfl, ⟨rfl, rfl⟩, _⟩
      exact ⟨rfl, rfl⟩
  | cons _ bound ih =>
    simp only [cutMany, List.mem_append, List.mem_flatMap, List.mem_singleton, Prod.mk.injEq]
    simp only [List.length_cons] at hb
    constructor
    · rintro (⟨⟨m, between⟩, hmem, h⟩ | ⟨rfl, rfl⟩)
      · obtain ⟨piece, rfl, rfl, hP⟩ := (hcut _ _ _).1 hmem
        cases piece with
        | nil => simp at h
        | cons c piece =>
          simp only [List.length_cons, Nat.add_eq_zero_iff, Nat.one_ne_zero, and_false, if_false, List.mem_map,
            Prod.mk.injEq] at h
          obtain ⟨⟨m, r⟩, hmem', rfl, rfl⟩ := h
          simp only [List.cons_append, List.length_cons, List.length_append] at hb
          obtain ⟨pieces, rfl, rfl, hrep⟩ := (ih (by omega)).1 hmem'
          exact ⟨(c :: piece) ++ pieces, by simp only [List.length_append, List.length_cons], by simp,
            .more (by simp) hP hrep⟩
      · exact ⟨[], rfl, rfl, .none⟩
    · rintro ⟨pieces, rfl, rfl, hrep⟩
      cases hrep with
      | none => exact .inr ⟨rfl, rfl⟩
      | @more piece cs hne hP hrep =>
        refine .inl ⟨(piece.length, cs ++ rest), (hcut _ _ _).2 ⟨piece, rfl, by simp, hP⟩, ?_⟩
        cases piece with
        | nil => exact absurd rfl hne
        | cons c piece =>
          simp only [List.length_cons, Nat.add_eq_zero_iff, Nat.one_ne_zero, and_false, if_false, List.mem_map,
            Prod.mk.injEq]
          simp only [List.cons_append, List.length_cons, List.length_append] at hb
          exact ⟨(cs.length, rest), (ih (by simp only [List.length_append]; omega)).2 ⟨cs, rfl, rfl, hrep⟩,
            by simp only [List.length_append, List.length_cons], rfl⟩

private theorem repeated_iff_matches {anyCase : Bool} {a : Shape} {cs : List Char} :
    Repeated (a.Matches anyCase) cs ↔ (Shape.many a).Matches anyCase cs := by
  constructor
  · intro h
    induction h with
    | none => exact .none
    | more _ hP _ ih => exact .more hP ih
  · intro h
    generalize hs : Shape.many a = s at h
    induction h with
    | none => exact .none
    | @more b piece cs hpiece _ _ ih =>
      cases hs
      have := ih rfl
      by_cases he : piece = []
      · subst he
        exact this
      · exact .more he hpiece this
    | _ => cases hs

/-! ### Shapes -/

/-- The cuts of a text are the lengths of the pieces of the shape at its front, with what follows them. -/
theorem Shape.mem_cuts_iff {anyCase : Bool} {s : Shape} {cs : List Char} {n : Nat} {rest : List Char} :
    (n, rest) ∈ s.cuts anyCase cs ↔ ∃ piece, n = piece.length ∧ cs = piece ++ rest ∧ s.Matches anyCase piece := by
  induction s generalizing cs n rest with
  | words ws =>
    simp only [cuts, List.mem_filterMap, Option.map_eq_some_iff, Prod.mk.injEq, restAfter?_eq_some_iff]
    constructor
    · rintro ⟨w, hw, rest, ⟨piece, hl, rfl, h⟩, rfl, rfl⟩
      exact ⟨piece, hl.symm, rfl, .words hw h⟩
    · rintro ⟨piece, rfl, rfl, h⟩
      cases h with
      | @words _ w _ hw h =>
        have hl := length_eq_of_sameTexts h
        exact ⟨w, hw, rest, ⟨piece, hl.symm, rfl, h⟩, hl, rfl⟩
  | run k least most =>
    simp only [cuts]
    rw [mem_cutRuns_iff (by simp)]
    simp only [List.not_mem_nil, false_or, Nat.zero_add]
    constructor
    · rintro ⟨piece, rfl, rfl, hall, hleast, hmost⟩
      exact ⟨piece, rfl, rfl, .run hall hleast hmost⟩
    · rintro ⟨piece, rfl, rfl, h⟩
      cases h with
      | run hall hleast hmost => exact ⟨piece, rfl, rfl, hall, hleast, hmost⟩
  | seq a b iha ihb =>
    simp only [cuts, List.mem_flatMap, List.mem_map, Prod.mk.injEq, Prod.exists]
    constructor
    · rintro ⟨_, _, hp, _, _, hp', rfl, rfl⟩
      obtain ⟨p, rfl, rfl, ha⟩ := iha.1 hp
      obtain ⟨p', rfl, rfl, hb⟩ := ihb.1 hp'
      exact ⟨p ++ p', by simp, by simp, .seq ha hb⟩
    · rintro ⟨_, rfl, rfl, h⟩
      cases h with
      | @seq _ _ p p' ha hb =>
        exact ⟨p.length, p' ++ rest, iha.2 ⟨p, rfl, by simp, ha⟩, p'.length, rest, ihb.2 ⟨p', rfl, rfl, hb⟩,
          by simp, rfl⟩
  | either a b iha ihb =>
    simp only [cuts, List.mem_append, iha, ihb]
    constructor
    · rintro (⟨piece, hn, e, h⟩ | ⟨piece, hn, e, h⟩)
      · exact ⟨piece, hn, e, .first h⟩
      · exact ⟨piece, hn, e, .second h⟩
    · rintro ⟨piece, hn, e, h⟩
      cases h with
      | first h => exact .inl ⟨piece, hn, e, h⟩
      | second h => exact .inr ⟨piece, hn, e, h⟩
  | many a iha =>
    simp only [cuts]
    rw [mem_cutMany_iff (fun _ _ _ => iha) (Nat.le_refl _)]
    simp only [repeated_iff_matches]

/-- What a cut leaves is the text without the piece. -/
theorem Shape.rest_eq_drop {anyCase : Bool} {s : Shape} {cs : List Char} {n : Nat} {rest : List Char}
    (h : (n, rest) ∈ s.cuts anyCase cs) : rest = cs.drop n := by
  obtain ⟨piece, rfl, rfl, _⟩ := Shape.mem_cuts_iff.1 h
  simp

/-! ### Collecting cuts -/

/-- The cuts of a text that begins at a place, with the places that they reach. -/
private def cutsFrom (place : Nat) (cuts : List (Nat × List Char)) : List (Nat × List Char) :=
  cuts.map fun (n, rest) => (place + n, rest)

private theorem cutsFrom_append {place : Nat} {cuts more : List (Nat × List Char)} :
    cutsFrom place (cuts ++ more) = cutsFrom place cuts ++ cutsFrom place more :=
  List.map_append

private theorem cutsFrom_flatMap {α : Type} {place : Nat} {l : List α} {cuts : α → List (Nat × List Char)} :
    cutsFrom place (l.flatMap cuts) = l.flatMap fun a => cutsFrom place (cuts a) := by
  simp only [cutsFrom, List.map_flatMap]

private theorem cutsFrom_cutsFrom {place n : Nat} {cuts : List (Nat × List Char)} :
    cutsFrom place (cutsFrom n cuts) = cutsFrom (place + n) cuts := by
  simp only [cutsFrom, List.map_map]
  congr
  funext cut
  simp [Nat.add_assoc]

/-- A fold that puts something in front at each step puts it all in front. -/
private theorem foldr_eq_flatMap_append {α β : Type} {g : α → List β → List β} {h : α → List β} {l : List α}
    (e : ∀ a ∈ l, ∀ found, g a found = h a ++ found) (found : List β) :
    l.foldr g found = l.flatMap h ++ found := by
  induction l with
  | nil => rfl
  | cons a l ih =>
    rw [List.foldr_cons, e a List.mem_cons_self, ih fun b hb => e b (List.mem_cons_of_mem _ hb), List.flatMap_cons,
      List.append_assoc]

private theorem addWords_eq {anyCase : Bool} {ws : List (List Char)} {place : Nat} {found : List (Nat × List Char)}
    {cs : List Char} :
    addWords anyCase ws place found cs = cutsFrom place ((Shape.words ws).cuts anyCase cs) ++ found := by
  induction ws with
  | nil => rfl
  | cons w ws ih =>
    simp only [addWords, Shape.cuts, List.foldr_cons, List.filterMap_cons] at ih ⊢
    rw [ih]
    cases restAfter? anyCase w cs <;> rfl

private theorem cutRuns_from {accepts : Char → Bool} {least : Nat} {most : Option Nat} {place taken : Nat}
    {before found : List (Nat × List Char)} {cs : List Char} :
    cutRuns accepts (place + least) (most.map (place + ·)) (place + taken) (cutsFrom place found ++ before) cs =
      cutsFrom place (cutRuns accepts least most taken found cs) ++ before := by
  induction cs generalizing taken found with
  | nil =>
    simp only [cutRuns, Nat.add_le_add_iff_left]
    split <;> rfl
  | cons c cs ih =>
    have here : (if place + least ≤ place + taken then (place + taken, c :: cs) :: (cutsFrom place found ++ before)
        else cutsFrom place found ++ before) =
        cutsFrom place (if least ≤ taken then (taken, c :: cs) :: found else found) ++ before := by
      simp only [Nat.add_le_add_iff_left]
      split <;> rfl
    have goes : (accepts c && (most.map (place + ·)).all (place + taken < ·)) = (accepts c && most.all (taken < ·)) := by
      cases most <;> simp
    simp only [cutRuns]
    rw [here, goes, Nat.add_assoc, ih]
    split <;> rfl

private theorem addMany_eq {cut : List Char → List (Nat × List Char)} {bound : List Char} {place : Nat}
    {found : List (Nat × List Char)} {cs : List Char} :
    addMany (fun place cs => cutsFrom place (cut cs)) bound place found cs =
      cutsFrom place (cutMany cut bound cs) ++ found := by
  induction bound generalizing place found cs with
  | nil => rfl
  | cons _ bound ih =>
    simp only [addMany, cutMany, cutsFrom_append, cutsFrom_flatMap, List.append_assoc]
    rw [foldr_eq_flatMap_append (h := fun (next, rest) =>
      if next = place then [] else cutsFrom next (cutMany cut bound rest))]
    · rw [cutsFrom, List.flatMap_map]
      congr 1
      congr 1
      funext cut
      simp only [Nat.add_eq_left]
      split
      · rfl
      · exact cutsFrom_cutsFrom.symm
    · rintro ⟨next, rest⟩ _ found
      simp only
      split
      · rfl
      · exact ih

/-- Collecting the cuts at a place puts them in front of those already found. -/
theorem Shape.addCuts_eq {anyCase : Bool} {s : Shape} {place : Nat} {found : List (Nat × List Char)} {cs : List Char} :
    s.addCuts anyCase place found cs = ((s.cuts anyCase cs).map fun (n, rest) => (place + n, rest)) ++ found := by
  change _ = cutsFrom place (s.cuts anyCase cs) ++ found
  induction s generalizing place found cs with
  | words ws => exact addWords_eq
  | run k least most => exact @cutRuns_from _ _ _ _ 0 _ [] _
  | seq a b iha ihb =>
    rw [addCuts, iha, List.append_nil,
      foldr_eq_flatMap_append (h := fun (next, rest) => cutsFrom next (b.cuts anyCase rest)) fun _ _ _ => ihb, cuts,
      cutsFrom_flatMap, cutsFrom, List.flatMap_map]
    congr 2
    funext cut
    exact cutsFrom_cutsFrom.symm
  | either a b iha ihb => rw [addCuts, iha, ihb, cuts, cutsFrom_append, List.append_assoc]
  | many a iha =>
    have each : (fun place cs => a.addCuts anyCase place [] cs) = fun place cs => cutsFrom place (a.cuts anyCase cs) := by
      funext place cs
      rw [iha, List.append_nil]
    rw [addCuts, each, addMany_eq, cuts]

end CivilTime
