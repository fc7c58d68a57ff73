import CivilTime.Text.Shape.Search

/-!
# Preferred pieces

A shape prefers a piece at the front of a text if that is the first way in which it cuts the text (`Shape.Prefers`). A
text whose pieces are all preferred, each in front of the ones that follow, is cut into these pieces
(`cutAll_eq_of_allPrefer`); no choice has to be taken back. A run is preferred that ends where its class or its bound
does, a word that no longer word of the row goes on from, and an alternative where those before it do not fit.
-/

namespace CivilTime

/-- The first way to cut a text that begins with `piece` and goes on with `rest` is to cut it between the two. -/
def Shape.Prefers (anyCase : Bool) (s : Shape) (piece rest : List Char) : Prop :=
  (s.cuts anyCase (piece ++ rest)).head? = some (piece.length, rest)

/-- Every shape prefers its piece in front of the pieces that follow. -/
def AllPrefer (anyCase : Bool) : List Shape → List (List Char) → Prop
  | [], [] => True
  | s :: shapes, piece :: pieces => s.Prefers anyCase piece pieces.flatten ∧ AllPrefer anyCase shapes pieces
  | _, _ => False

theorem cutAll_eq_of_allPrefer {anyCase : Bool} {accepts : List Char → Bool} (hacc : accepts [] = true)
    {shapes : List Shape} {pieces : List (List Char)} (h : AllPrefer anyCase shapes pieces) :
    cutAll anyCase accepts shapes pieces.flatten = some pieces := by
  induction shapes generalizing pieces with
  | nil =>
    cases pieces with
    | nil => rw [List.flatten_nil, cutAll_nil, if_pos hacc]
    | cons piece pieces => exact absurd h id
  | cons s shapes ih =>
    cases pieces with
    | nil => exact absurd h id
    | cons piece pieces =>
      obtain ⟨hs, hrest⟩ := h
      unfold Shape.Prefers at hs
      rw [List.flatten_cons, cutAll_cons]
      obtain ⟨more, hmore⟩ := List.head?_eq_some_iff.1 hs
      rw [hmore, List.findSome?_cons]
      simp only [ih hrest, Option.map_some]
      rw [List.take_left]

variable {anyCase : Bool} {a b : Shape} {piece rest : List Char}

/-! ### Combinations -/

theorem Shape.prefers_seq {p q : List Char} (ha : a.Prefers anyCase p (q ++ rest)) (hb : b.Prefers anyCase q rest) :
    (Shape.seq a b).Prefers anyCase (p ++ q) rest := by
  unfold Prefers at *
  obtain ⟨moreA, hA⟩ := List.head?_eq_some_iff.1 ha
  obtain ⟨moreB, hB⟩ := List.head?_eq_some_iff.1 hb
  simp only [cuts]
  rw [List.append_assoc, hA, List.flatMap_cons]
  simp only
  rw [hB]
  simp

theorem Shape.prefers_first (h : a.Prefers anyCase piece rest) : (Shape.either a b).Prefers anyCase piece rest := by
  unfold Prefers at *
  obtain ⟨more, hmore⟩ := List.head?_eq_some_iff.1 h
  simp only [cuts]
  rw [hmore]
  rfl

theorem Shape.prefers_second (ha : a.cuts anyCase (piece ++ rest) = []) (hb : b.Prefers anyCase piece rest) :
    (Shape.either a b).Prefers anyCase piece rest := by
  unfold Prefers at *
  simp only [cuts]
  rw [ha, List.nil_append, hb]

theorem restAfter?_append (anyCase : Bool) (w rest : List Char) : restAfter? anyCase w (w ++ rest) = some rest := by
  induction w with
  | nil => rfl
  | cons c w ih => rw [List.cons_append, restAfter?, if_pos (sameUpToCase_refl anyCase c), ih]

theorem Shape.prefers_word (anyCase : Bool) (w rest : List Char) : (Shape.word w).Prefers anyCase w rest := by
  unfold Prefers word
  simp [cuts, restAfter?_append]

theorem Shape.prefers_nothing (h : a.cuts anyCase rest = []) : (Shape.optional a).Prefers anyCase [] rest :=
  prefers_second h (prefers_word anyCase [] rest)

theorem Shape.cuts_seq_nil {cs : List Char} (h : a.cuts anyCase cs = []) : (Shape.seq a b).cuts anyCase cs = [] := by
  simp only [cuts]
  rw [h]
  rfl

/-- Where a repetition prefers a number of pieces, it prefers one more in front of them. -/
theorem head?_cutMany_append {n : Nat} {left : List Char} (hne : piece ≠ []) (ha : a.Prefers anyCase piece rest)
    (hrest : ∀ bound : List Char, rest.length ≤ bound.length →
      (cutMany (a.cuts anyCase) bound rest).head? = some (n, left)) {bound : List Char}
    (hbound : (piece ++ rest).length ≤ bound.length) :
    (cutMany (a.cuts anyCase) bound (piece ++ rest)).head? = some (piece.length + n, left) := by
  have hpos := List.length_pos_iff.2 hne
  rw [List.length_append] at hbound
  cases bound with
  | nil =>
    rw [List.length_nil] at hbound
    omega
  | cons b bound =>
    rw [List.length_cons] at hbound
    obtain ⟨more, hmore⟩ := List.head?_eq_some_iff.1 ha
    obtain ⟨more', hmore'⟩ := List.head?_eq_some_iff.1 (hrest bound (by omega))
    rw [cutMany, hmore, List.flatMap_cons]
    dsimp only
    rw [if_neg (Nat.ne_of_gt hpos), hmore']
    rfl

/-! ### Words -/

theorem Shape.cuts_words_nil {ws : List (List Char)} {cs : List Char}
    (h : ∀ w ∈ ws, restAfter? anyCase w cs = none) : (Shape.words ws).cuts anyCase cs = [] := by
  simp only [cuts]
  rw [List.filterMap_eq_nil_iff]
  intro w hw
  rw [h w hw]
  rfl

/-- Where a row of words lists long ones before short ones, the longest word that fits is preferred. -/
theorem Shape.prefers_words {ws : List (List Char)} (hsorted : ws.Pairwise fun v w => w.length ≤ v.length)
    (hmem : piece ∈ ws) (hlong : ∀ w ∈ ws, (restAfter? anyCase w (piece ++ rest)).isSome = true →
      w.length ≤ piece.length) : (Shape.words ws).Prefers anyCase piece rest := by
  unfold Prefers
  simp only [cuts]
  induction ws with
  | nil => cases hmem
  | cons w ws ih =>
    rw [List.pairwise_cons] at hsorted
    rw [List.filterMap_cons]
    cases hw : restAfter? anyCase w (piece ++ rest) with
    | none =>
      have hmem' : piece ∈ ws := by
        rcases List.mem_cons.1 hmem with rfl | hmem
        · rw [restAfter?_append] at hw
          cases hw
        · exact hmem
      exact ih hsorted.2 hmem' fun v hv => hlong v (List.mem_cons_of_mem _ hv)
    | some left =>
      have hle := hlong w List.mem_cons_self (by rw [hw]; rfl)
      have hge : piece.length ≤ w.length := by
        rcases List.mem_cons.1 hmem with rfl | hmem
        · exact Nat.le_refl _
        · exact hsorted.1 piece hmem
      obtain ⟨front, hlen, he, -⟩ := restAfter?_eq_some_iff.1 hw
      have hparts := List.append_inj he (by omega)
      simp only [Option.map_some, List.head?_cons, Option.some.injEq, Prod.mk.injEq]
      exact ⟨by omega, hparts.2.symm⟩

/-! ### Runs -/

private theorem head?_cutRuns {accepts : Char → Bool} {least : Nat} {most : Option Nat} {taken : Nat}
    {found : List (Nat × List Char)} (hall : ∀ c ∈ piece, accepts c = true) (hleast : least ≤ taken + piece.length)
    (hmost : ∀ m ∈ most, taken + piece.length ≤ m)
    (hend : (∀ m ∈ most, m ≤ taken + piece.length) ∧ most.isSome = true ∨ ∀ c ∈ rest.head?, accepts c = false) :
    (cutRuns accepts least most taken found (piece ++ rest)).head? = some (taken + piece.length, rest) := by
  -- what was found before is overridden at the end of the piece, so it may be anything
  induction piece generalizing taken found with
  | nil =>
    rw [List.nil_append]
    cases rest with
    | nil =>
      rw [cutRuns, if_pos (by simpa using hleast)]
      rfl
    | cons c cs =>
      have hstop : (accepts c && most.all (taken < ·)) = false := by
        rw [Bool.and_eq_false_iff]
        rcases hend with ⟨hend, hsome⟩ | hend
        · obtain ⟨m, rfl⟩ := Option.isSome_iff_exists.1 hsome
          have := hend m rfl
          simp only [List.length_nil, Nat.add_zero] at this
          right
          simp only [Option.all_some, decide_eq_false_iff_not]
          omega
        · exact .inl (hend c rfl)
      simp only [cutRuns]
      rw [hstop, if_neg Bool.false_ne_true, if_pos (by simpa using hleast)]
      rfl
  | cons c cs ih =>
    have hgo : (accepts c && most.all (taken < ·)) = true := by
      rw [Bool.and_eq_true]
      refine ⟨hall c List.mem_cons_self, ?_⟩
      rw [Option.all_eq_true]
      intro m hm
      have := hmost m hm
      simp only [List.length_cons] at this
      simp only [decide_eq_true_eq]
      omega
    simp only [List.cons_append, cutRuns, List.length_cons] at *
    rw [hgo, if_pos rfl, ih (fun d hd => hall d (List.mem_cons_of_mem _ hd)) (by omega)
      (fun m hm => by have := hmost m hm; omega)]
    · simp only [Option.some.injEq, Prod.mk.injEq, and_true]
      omega
    · refine hend.imp (fun h => ⟨fun m hm => ?_, h.2⟩) id
      have := h.1 m hm
      omega

/-- A run is preferred that ends where its bound does, or where its class does. -/
theorem Shape.prefers_run {k : CharClass} {least : Nat} {most : Option Nat}
    (hall : ∀ c ∈ piece, k.accepts anyCase c = true) (hleast : least ≤ piece.length)
    (hmost : ∀ m ∈ most, piece.length ≤ m)
    (hend : most = some piece.length ∨ ∀ c ∈ rest.head?, k.accepts anyCase c = false) :
    (Shape.run k least most).Prefers anyCase piece rest := by
  unfold Prefers
  simp only [cuts]
  rw [head?_cutRuns hall (by omega) (fun m hm => by have := hmost m hm; omega), Nat.zero_add]
  refine hend.imp (fun h => ⟨fun m hm => ?_, ?_⟩) id
  · rw [h] at hm
    cases hm
    omega
  · rw [h]
    rfl

theorem Shape.cuts_run_nil {k : CharClass} {least : Nat} {most : Option Nat} {cs : List Char} (hleast : 0 < least)
    (h : ∀ c ∈ cs.head?, k.accepts anyCase c = false) : (Shape.run k least most).cuts anyCase cs = [] := by
  simp only [cuts]
  cases cs with
  | nil =>
    rw [cutRuns, if_neg (by omega)]
  | cons c cs =>
    have hc := h c rfl
    simp only [cutRuns]
    rw [hc, Bool.false_and, if_neg Bool.false_ne_true, if_neg (by omega)]

end CivilTime
