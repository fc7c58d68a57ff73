import CivilTime.Pattern.Grammar
import CivilTime.Proofs.Zone.Listed
import CivilTime.Proofs.Zone.RegionNames

/-!
# Short names of zones

What a region observes goes by a short name (`IsShortName`): letters, as in CET, or the digits of an offset after its sign,
where there are no letters in use. At the end of a date text the letters are taken as a whole, and the digits are not taken
at all (`cuts_shortName`). A database is assumed to have such names only (`Database.HasShortNames`), which is checked for the
listed regions.
-/

namespace CivilTime

/-- A name that begins with a sign, a name of the zero meridian, or letters that begin with none of its names, also in other
letter case. -/
def IsShortName : List Char → Prop
  | [] => False
  | c :: cs => c ∈ ['+', '-'] ∨ c :: cs ∈ meridianNames ∨
      (c :: cs).all Char.isAlpha = true ∧ ∀ w ∈ meridianNames, restAfter? true w (c :: cs) = none

instance : (name : List Char) → Decidable (IsShortName name)
  | [] => inferInstanceAs (Decidable False)
  | _ :: _ => inferInstanceAs (Decidable (_ ∨ _ ∨ _ ∧ _))

/-- The time of Guam goes by letters that share their first one with the zero meridian. -/
example : IsShortName "GST".toList := by decide

/-! ### Short names in date text -/

variable {c : Char} {cs : List Char}

/-- What begins with a sign begins with no name of the zero meridian. -/
private theorem restAfter?_meridian_of_sign (hsign : c ∈ ['+', '-']) :
    ∀ w ∈ meridianNames, restAfter? true w (c :: cs) = none := by
  have hfirst : (['+', '-'].all fun c => meridianNames.all fun w => w.head?.any fun d => !sameUpToCase true d c) = true := by
    decide
  intro w hw
  have hw := List.all_eq_true.1 (List.all_eq_true.1 hfirst c hsign) w hw
  cases w with
  | nil => cases hw
  | cons d ws =>
    rw [List.head?_cons, Option.any_some, Bool.not_eq_true'] at hw
    rw [restAfter?, hw]
    rfl

private theorem prefers_letters (halpha : (c :: cs).all Char.isAlpha = true) :
    regionShape.Prefers true (c :: cs) [] := by
  have hall := List.all_eq_true.1 halpha
  have hfirst : (Shape.run .letter 1 (some 1)).Matches false [c] :=
    .run (fun d hd => by rw [List.mem_singleton.1 hd]; exact hall c List.mem_cons_self) (Nat.le_refl 1)
      (fun m hm => by cases hm; exact Nat.le_refl 1)
  have hmore : (Shape.run .nameChar 0 none).Matches false cs := by
    refine .run (fun d hd => ?_) (Nat.zero_le _) (fun m hm => by cases hm)
    change (d.isAlphanum || _ || _ || _) = true
    unfold Char.isAlphanum
    rw [hall d (List.mem_cons_of_mem _ hd)]
    rfl
  have hwhole : regionShape.Matches false ([c] ++ (cs ++ [])) := .seq hfirst (.seq hmore .none)
  rw [List.append_nil] at hwhole
  exact prefers_region hwhole

/-- At the end of a text a short name of letters is taken as a whole, and one that begins with a sign is not taken. -/
theorem cuts_shortName (h : IsShortName (c :: cs)) :
    if c ∈ ['+', '-'] then (zoneShape .zoneName).cuts true (c :: cs) = []
    else (zoneShape .zoneName).Prefers true (c :: cs) [] := by
  split
  · rename_i hsign
    have hletter : (['+', '-'].all fun c => CharClass.letter.accepts true c = false) = true := by decide
    change (Shape.seq _ _).cuts true (c :: cs) ++ regionShape.cuts true (c :: cs) = []
    rw [Shape.cuts_seq_nil (Shape.cuts_words_nil (restAfter?_meridian_of_sign hsign)), List.nil_append]
    refine Shape.cuts_seq_nil (Shape.cuts_run_nil Nat.one_pos fun d hd => ?_)
    obtain rfl : c = d := Option.some.inj hd
    exact of_decide_eq_true (List.all_eq_true.1 hletter c hsign)
  · rename_i hsign
    rcases h with h | h | ⟨halpha, hother⟩
    · exact absurd h hsign
    · have hwhole : ∀ name ∈ meridianNames, ((zoneShape .zoneName).cuts true (name ++ [])).head? = some (name.length, []) := by
        decide
      exact hwhole _ h
    · refine Shape.prefers_second (Shape.cuts_seq_nil (Shape.cuts_words_nil ?_)) (prefers_letters halpha)
      rwa [List.append_nil]

/-! ### Databases -/

/-- What the regions observe goes by short names. -/
def Database.HasShortNames (db : Database) : Prop :=
  ∀ name history, db.history? name = some history → ∀ o ∈ history.observances, IsShortName o.name.toList

/-- What a history in the form of a table observes is listed in the table or in the rule. -/
private theorem forall_observances_ofTable {P : Observance → Prop} {first : Observance} {later : List Observance}
    {changes : List (Int × Nat)} {rule : ClosingRule} (h : ∀ o ∈ first :: (later ++ rule.observances), P o) :
    ∀ o ∈ (History.ofTable first later changes rule).observances, P o := by
  intro o ho
  simp only [History.observances, History.ofTable, List.map_map, List.mem_cons, List.mem_append, List.mem_map] at ho
  rcases ho with rfl | ⟨change, -, rfl⟩ | ho
  · exact h _ List.mem_cons_self
  · simp only [Function.comp]
    rw [List.getD_eq_getElem?_getD]
    cases hget : (first :: later)[change.2]? with
    | none => exact h _ List.mem_cons_self
    | some o =>
      have hmem := List.mem_of_getElem? hget
      exact h o (by rw [← List.cons_append]; exact List.mem_append_left _ hmem)
  · exact h o (List.mem_cons_of_mem _ (List.mem_append_right _ ho))

private theorem isShortName_of_mem_listedRegions :
    ∀ region ∈ listedRegions, ∀ o ∈ region.2.observances, IsShortName o.name.toList := by
  -- the tables are checked, not the long lists of changes that they stand for
  simp only [listedRegions, List.forall_mem_cons]
  and_intros
  all_goals first
    | exact forall_observances_ofTable (by decide +kernel)
    | exact fun region h => by cases h

theorem Database.hasShortNames_listed : listed.HasShortNames :=
  fun _ _ hn => isShortName_of_mem_listedRegions _ (mem_listedRegions hn)

end CivilTime
