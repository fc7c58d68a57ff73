import CivilTime.Text.Shape.Cuts

/-!
# Cutting as a search

Cutting one piece after the other is a search that tries the cuts of the first shape in order and goes on with the rest
(`cutAll_nil`, `cutAll_cons`), although the frontier keeps only the first cutting that reaches a place: a later one is as
good or as bad (`findSome?_foldl_add`). So a way to cut a text into pieces is found whenever there is one
(`cutAll_isSome_iff`), and what is found is one (`cutAll_sound`).
-/

namespace CivilTime

/-! ### The search -/

/-- The lengths of the first complete row of pieces, by trying the cuts of each shape in order. -/
private def searchCuts (anyCase : Bool) (accepts : List Char → Bool) : List Shape → List Char → Option (List Nat)
  | [], cs => if accepts cs then some [] else none
  | shape :: shapes, cs =>
    (shape.cuts anyCase cs).findSome? fun (n, rest) =>
      (searchCuts anyCase accepts shapes rest).map (n :: ·)

private theorem findSome?_flatMap_eq {α β γ : Type} (f : β → Option γ) (g : α → List β) (l : List α) :
    (l.flatMap g).findSome? f = l.findSome? fun a => (g a).findSome? f := by
  induction l with
  | nil => rfl
  | cons a l ih =>
    rw [List.flatMap_cons, List.findSome?_append, List.findSome?_cons, ih]
    cases (g a).findSome? f <;> rfl

private theorem findSome?_congr_mem {α β : Type} {f g : α → Option β} {l : List α} (h : ∀ a ∈ l, f a = g a) :
    l.findSome? f = l.findSome? g := by
  induction l with
  | nil => rfl
  | cons a l ih =>
    rw [List.findSome?_cons, List.findSome?_cons, h a (by simp), ih fun b hb => h b (by simp [hb])]

/-! ### The next frontier -/

/-- The ways to go on from a cutting with a piece of the shape, in order of preference. -/
private def Cutting.extend (anyCase : Bool) (shape : Shape) (c : Cutting) : List Cutting :=
  (shape.cuts anyCase c.rest).map fun (n, rest) => ⟨n :: c.lengths, c.place + n, rest⟩

private theorem addAll_addCuts {anyCase : Bool} {number : Nat} {shape : Shape} {c : Cutting} {f : Frontier} :
    f.addAll number c (shape.addCuts anyCase c.place [] c.rest) =
      (c.extend anyCase shape).foldl (Frontier.add number) f := by
  rw [Frontier.addAll, Shape.addCuts_eq, List.append_nil, Cutting.extend, List.foldl_map, List.foldl_map]
  simp only [Nat.add_sub_cancel_left]

/-- The next frontier before its cuttings are put in order. -/
private def Frontier.nextReversed (anyCase : Bool) (number : Nat) (shape : Shape) (f : Frontier) : Frontier :=
  (f.cuttings.flatMap (Cutting.extend anyCase shape)).foldl (Frontier.add number) ⟨f.marks, []⟩

private theorem cuttings_next {anyCase : Bool} {number : Nat} {shape : Shape} {f : Frontier} :
    (f.next anyCase number shape).cuttings = (f.nextReversed anyCase number shape).cuttings.reverse := by
  simp only [Frontier.next, addAll_addCuts, Frontier.nextReversed, List.foldl_flatMap]

private theorem marks_next {anyCase : Bool} {number : Nat} {shape : Shape} {f : Frontier} :
    (f.next anyCase number shape).marks = (f.nextReversed anyCase number shape).marks := by
  simp only [Frontier.next, addAll_addCuts, Frontier.nextReversed, List.foldl_flatMap]

/-- A mark that is set stands at its place, and all others stay. -/
private theorem getD_setIfInBounds {marks : Array Nat} {place number n : Nat} :
    (marks.setIfInBounds place number).getD n 0 = marks.getD n 0 ∨
      n = place ∧ (marks.setIfInBounds place number).getD n 0 = number := by
  simp only [Array.getD_eq_getD_getElem?, Array.getElem?_setIfInBounds]
  grind

/-- No mark is greater than the number of the shape that comes next. -/
private def Frontier.Below (number : Nat) (f : Frontier) : Prop :=
  ∀ n, f.marks.getD n 0 < number

private theorem below_foldl_add {number : Nat} {cuttings : List Cutting} {f : Frontier} (h : f.Below (number + 1)) :
    (cuttings.foldl (Frontier.add number) f).Below (number + 1) := by
  induction cuttings generalizing f with
  | nil => exact h
  | cons c cuttings ih =>
    rw [List.foldl_cons, Frontier.add]
    refine ih ?_
    split
    · exact h
    · intro n
      rcases @getD_setIfInBounds f.marks c.place number n with e | ⟨_, e⟩
      · simpa only [e] using h n
      · simp only [e, Nat.lt_succ_self]

/-- A cutting that reaches the place of an earlier one may be left out of a search that succeeds or fails alike on
both. -/
private theorem findSome?_foldl_add {β : Type} {search : Cutting → Option β} (alive : Nat → Bool) {number : Nat}
    {cuttings : List Cutting} {f : Frontier} (hs : ∀ c ∈ cuttings, (search c).isSome = alive c.place)
    (hf : ∀ n, f.marks.getD n 0 = number → alive n = true → (f.cuttings.reverse.findSome? search).isSome = true) :
    (cuttings.foldl (Frontier.add number) f).cuttings.reverse.findSome? search =
      (f.cuttings.reverse ++ cuttings).findSome? search := by
  induction cuttings generalizing f with
  | nil => simp
  | cons c cuttings ih =>
    have hc := hs c List.mem_cons_self
    have htail : ∀ d ∈ cuttings, (search d).isSome = alive d.place := fun d hd => hs d (List.mem_cons_of_mem _ hd)
    rw [List.foldl_cons, Frontier.add]
    split
    · rename_i hm
      rw [ih htail hf, List.findSome?_append, List.findSome?_append, List.findSome?_cons]
      cases hsc : search c with
      | none => rfl
      | some b =>
        rw [hsc] at hc
        have := hf _ hm hc.symm
        cases hfound : f.cuttings.reverse.findSome? search with
        | none => simp [hfound] at this
        | some _ => rfl
    · rw [ih htail]
      · simp
      · intro n hn ha
        simp only [List.reverse_cons, List.findSome?_append, Option.isSome_or, Bool.or_eq_true]
        rcases @getD_setIfInBounds f.marks c.place number n with e | ⟨rfl, _⟩
        · exact .inl (hf n (e ▸ hn) ha)
        · right
          rw [List.findSome?_cons]
          cases hsc : search c with
          | none => simp [hsc, ha] at hc
          | some _ => rfl

/-! ### Following the frontier -/

/-- The cuttings lie in the text: each one leaves what comes after its place. -/
private def InText (text : List Char) (cuttings : List Cutting) : Prop :=
  ∀ c ∈ cuttings, c.rest = text.drop c.place

private theorem inText_extend (anyCase : Bool) (shape : Shape) {text : List Char} {cuttings : List Cutting}
    (h : InText text cuttings) : InText text (cuttings.flatMap (Cutting.extend anyCase shape)) := by
  intro d hd
  simp only [Cutting.extend, List.mem_flatMap, List.mem_map] at hd
  obtain ⟨c, hc, ⟨n, rest⟩, hmem, rfl⟩ := hd
  simp only
  rw [Shape.rest_eq_drop hmem, h c hc, List.drop_drop]

private theorem mem_of_mem_foldl_add {number : Nat} {cuttings : List Cutting} {f : Frontier} {c : Cutting}
    (h : c ∈ (cuttings.foldl (Frontier.add number) f).cuttings) : c ∈ f.cuttings ∨ c ∈ cuttings := by
  induction cuttings generalizing f with
  | nil => exact .inl h
  | cons d cuttings ih =>
    rw [List.foldl_cons] at h
    rcases ih h with h | h
    · unfold Frontier.add at h
      split at h
      · exact .inl h
      · rcases List.mem_cons.1 h with rfl | h
        · exact .inr List.mem_cons_self
        · exact .inl h
    · exact .inr (List.mem_cons_of_mem _ h)

private theorem inText_next {anyCase : Bool} {number : Nat} {shape : Shape} {text : List Char} {f : Frontier}
    (h : InText text f.cuttings) : InText text (f.next anyCase number shape).cuttings := by
  intro c hc
  rw [cuttings_next, List.mem_reverse] at hc
  rcases mem_of_mem_foldl_add hc with hc | hc
  · cases hc
  · exact inText_extend anyCase shape h c hc

private theorem below_next {anyCase : Bool} {number : Nat} {shape : Shape} {f : Frontier} (h : f.Below number) :
    (f.next anyCase number shape).Below (number + 1) := by
  intro n
  rw [marks_next]
  exact below_foldl_add (f := ⟨f.marks, []⟩) (fun n => Nat.lt_succ_of_lt (h n)) n

/-- What the search finds from the cuttings of a frontier, it finds from those of the next one. -/
private theorem findSome?_next {anyCase : Bool} {accepts : List Char → Bool} {text : List Char} {number : Nat}
    {shape : Shape} {shapes : List Shape} {f : Frontier} (h : InText text f.cuttings) (hb : f.Below number) :
    ((f.next anyCase number shape).cuttings.findSome? fun c =>
        (searchCuts anyCase accepts shapes c.rest).map (c.lengths.reverse ++ ·)) =
      f.cuttings.findSome? fun c =>
        (searchCuts anyCase accepts (shape :: shapes) c.rest).map (c.lengths.reverse ++ ·) := by
  rw [cuttings_next, Frontier.nextReversed, findSome?_foldl_add (f := ⟨f.marks, []⟩)
    (fun n => (searchCuts anyCase accepts shapes (text.drop n)).isSome)
    (fun c hc => by rw [Option.isSome_map, inText_extend anyCase shape h c hc])
    (fun n hn => absurd hn (Nat.ne_of_lt (hb n))), List.reverse_nil, List.nil_append, findSome?_flatMap_eq]
  refine findSome?_congr_mem fun c _ => ?_
  rw [Cutting.extend, List.findSome?_map, searchCuts, List.map_findSome?]
  refine findSome?_congr_mem fun cut _ => ?_
  simp only [Function.comp, Option.map_map]
  congr
  funext lengths
  simp

/-- Following all cuttings at once finds what the search from the most preferred one on finds. -/
private theorem find?_follow {anyCase : Bool} {accepts : List Char → Bool} {text : List Char} {number : Nat}
    {shapes : List Shape} {f : Frontier} (h : InText text f.cuttings) (hb : f.Below number) :
    ((Frontier.follow anyCase number shapes f).find? fun c => accepts c.rest).map (·.lengths.reverse) =
      f.cuttings.findSome? fun c => (searchCuts anyCase accepts shapes c.rest).map (c.lengths.reverse ++ ·) := by
  induction shapes generalizing number f with
  | nil =>
    rw [Frontier.follow]
    generalize f.cuttings = cuttings
    induction cuttings with
    | nil => rfl
    | cons c cuttings ih =>
      rw [List.find?_cons, List.findSome?_cons]
      cases ha : accepts c.rest with
      | true => simp [searchCuts, ha]
      | false =>
        simp only [searchCuts, ha, Bool.false_eq_true, if_false, Option.map_none]
        exact ih
  | cons shape shapes ih => rw [Frontier.follow, ih (inText_next h) (below_next hb), findSome?_next h hb]

private theorem below_start {cs : List Char} : (Frontier.start cs).Below 1 := by
  intro n
  simp only [Frontier.start, Array.getD_eq_getD_getElem?, Array.getElem?_replicate]
  split <;> simp

private theorem inText_start {cs : List Char} : InText cs (Frontier.start cs).cuttings := by
  intro c hc
  rw [Frontier.start, List.mem_singleton] at hc
  subst hc
  rfl

private theorem cutAll_eq_searchCuts {anyCase : Bool} {accepts : List Char → Bool} {shapes : List Shape}
    {cs : List Char} :
    cutAll anyCase accepts shapes cs = (searchCuts anyCase accepts shapes cs).map (piecesOf · cs) := by
  have found : ((Frontier.follow anyCase 1 shapes (.start cs)).find? fun c => accepts c.rest).map
      (·.lengths.reverse) = searchCuts anyCase accepts shapes cs := by
    rw [find?_follow inText_start below_start, Frontier.start, List.findSome?_cons]
    cases searchCuts anyCase accepts shapes cs <;> rfl
  rw [← found, Option.map_map]
  rfl

/-- With no piece to cut off, the text is the rest. -/
theorem cutAll_nil {anyCase : Bool} {accepts : List Char → Bool} {cs : List Char} :
    cutAll anyCase accepts [] cs = if accepts cs then some [] else none := by
  rw [cutAll_eq_searchCuts, searchCuts]
  split <;> rfl

/-- The cuts of the first shape are tried in order, each with the rest that it leaves. -/
theorem cutAll_cons {anyCase : Bool} {accepts : List Char → Bool} {shape : Shape} {shapes : List Shape}
    {cs : List Char} :
    cutAll anyCase accepts (shape :: shapes) cs =
      (shape.cuts anyCase cs).findSome? fun (n, rest) =>
        (cutAll anyCase accepts shapes rest).map (cs.take n :: ·) := by
  rw [cutAll_eq_searchCuts, searchCuts, List.map_findSome?]
  refine findSome?_congr_mem fun cut hcut => ?_
  simp only [Function.comp, cutAll_eq_searchCuts]
  cases searchCuts anyCase accepts shapes cut.2 with
  | none => rfl
  | some lengths => simp [piecesOf, Shape.rest_eq_drop hcut]

/-! ### Several pieces -/

/-- One piece is cut off for each shape. -/
theorem length_cutAll {anyCase : Bool} {accepts : List Char → Bool} {shapes : List Shape} {cs : List Char}
    {pieces : List (List Char)} (h : cutAll anyCase accepts shapes cs = some pieces) :
    pieces.length = shapes.length := by
  induction shapes generalizing cs pieces with
  | nil =>
    rw [cutAll_nil] at h
    split at h <;> cases h
    rfl
  | cons shape shapes ih =>
    rw [cutAll_cons] at h
    obtain ⟨cut, _, h⟩ := List.exists_of_findSome?_eq_some h
    obtain ⟨rest, hrest, rfl⟩ := Option.map_eq_some_iff.1 h
    simp [ih hrest]

/-- The pieces have the shapes, one by one. -/
def AllMatch (anyCase : Bool) : List Shape → List (List Char) → Prop
  | [], [] => True
  | shape :: shapes, piece :: pieces => shape.Matches anyCase piece ∧ AllMatch anyCase shapes pieces
  | _, _ => False

/-- The pieces that are found have the shapes, and with an acceptable rest they make up the text. -/
theorem cutAll_sound {anyCase : Bool} {accepts : List Char → Bool} {shapes : List Shape} {cs : List Char}
    {pieces : List (List Char)} (h : cutAll anyCase accepts shapes cs = some pieces) :
    AllMatch anyCase shapes pieces ∧ ∃ rest, cs = pieces.flatten ++ rest ∧ accepts rest = true := by
  induction shapes generalizing cs pieces with
  | nil =>
    rw [cutAll_nil] at h
    split at h
    · rename_i hacc
      cases h
      exact ⟨trivial, cs, rfl, hacc⟩
    · cases h
  | cons shape shapes ih =>
    rw [cutAll_cons] at h
    obtain ⟨⟨n, rest⟩, hmem, h⟩ := List.exists_of_findSome?_eq_some h
    obtain ⟨pieces, hrest, rfl⟩ := Option.map_eq_some_iff.1 h
    obtain ⟨piece, rfl, rfl, hmatch⟩ := Shape.mem_cuts_iff.1 hmem
    obtain ⟨hall, rest', rfl, hacc⟩ := ih hrest
    refine ⟨⟨?_, hall⟩, rest', by simp, hacc⟩
    simpa using hmatch

/-- There is a way to cut a text into pieces exactly if one is found. -/
theorem cutAll_isSome_iff {anyCase : Bool} {accepts : List Char → Bool} {shapes : List Shape} {cs : List Char} :
    (cutAll anyCase accepts shapes cs).isSome = true ↔
      ∃ pieces rest, AllMatch anyCase shapes pieces ∧ cs = pieces.flatten ++ rest ∧ accepts rest = true := by
  constructor
  · intro h
    obtain ⟨pieces, h⟩ := Option.isSome_iff_exists.1 h
    obtain ⟨hall, rest, e, hacc⟩ := cutAll_sound h
    exact ⟨pieces, rest, hall, e, hacc⟩
  · rintro ⟨pieces, rest, hall, rfl, hacc⟩
    induction shapes generalizing pieces with
    | nil =>
      cases pieces with
      | nil => simp [cutAll_nil, hacc]
      | cons piece pieces => exact absurd hall id
    | cons shape shapes ih =>
      cases pieces with
      | nil => exact absurd hall id
      | cons piece pieces =>
        rw [cutAll_cons, List.findSome?_isSome_iff]
        refine ⟨(piece.length, pieces.flatten ++ rest), Shape.mem_cuts_iff.2 ⟨piece, rfl, by simp, hall.1⟩, ?_⟩
        simpa using ih pieces hall.2

end CivilTime
