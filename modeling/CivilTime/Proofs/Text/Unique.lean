import CivilTime.Proofs.Text.Folding
import CivilTime.Text.Shape.Search

/-!
# Texts that are cut in one way only

Two runs of a class of characters at the front of a text are the same where each ends in front of a character outside the
class (`append_inj_of_runs`). If a text has no two ways to be cut into pieces of given shapes, the search finds the only
one (`cutAll_isEmpty_eq_some_iff`). What is known of the classes and words of a shape is known of its pieces, as matching sees
them: the characters that occur in them (`Shape.Within`), and those they begin with (`Shape.BeginsIn`).
-/

namespace CivilTime

variable {P : Char → Prop} {anyCase : Bool} {shapes : List Shape} {s : Shape} {pieces : List (List Char)} {cs : List Char}

/-- Runs that end in front of other characters are the same if they begin the same text. -/
theorem append_inj_of_runs {p q r t : List Char} (hp : ∀ c ∈ p, P c) (hq : ∀ c ∈ q, P c) (hr : ∀ c ∈ r.head?, ¬P c)
    (ht : ∀ c ∈ t.head?, ¬P c) (h : p ++ r = q ++ t) : p = q ∧ r = t := by
  induction p generalizing q with
  | nil =>
    cases q with
    | nil => exact ⟨rfl, h⟩
    | cons d q =>
      rw [List.nil_append] at h
      subst h
      exact absurd (hq d List.mem_cons_self) (hr d rfl)
  | cons c p ih =>
    cases q with
    | nil =>
      rw [List.nil_append] at h
      subst h
      exact absurd (hp c List.mem_cons_self) (ht c rfl)
    | cons d q =>
      simp only [List.cons_append, List.cons.injEq] at h
      obtain ⟨rfl, h⟩ := h
      obtain ⟨rfl, hrt⟩ := ih (fun e he => hp e (List.mem_cons_of_mem _ he)) (fun e he => hq e (List.mem_cons_of_mem _ he)) h
      exact ⟨rfl, hrt⟩

/-- The search for pieces that leave no rest finds the only ones that there are. -/
theorem cutAll_isEmpty_eq_some_iff
    (hunique : ∀ ps qs, AllMatch anyCase shapes ps → AllMatch anyCase shapes qs → ps.flatten = cs → qs.flatten = cs → ps = qs) :
    cutAll anyCase List.isEmpty shapes cs = some pieces ↔ AllMatch anyCase shapes pieces ∧ pieces.flatten = cs := by
  have hsound : ∀ {ps}, cutAll anyCase List.isEmpty shapes cs = some ps → AllMatch anyCase shapes ps ∧ ps.flatten = cs := by
    intro ps h
    obtain ⟨hall, rest, hcs, hrest⟩ := cutAll_sound h
    obtain rfl : rest = [] := List.isEmpty_iff.1 hrest
    exact ⟨hall, by rw [hcs, List.append_nil]⟩
  constructor
  · exact hsound
  · rintro ⟨hall, hcs⟩
    have hsome : (cutAll anyCase List.isEmpty shapes cs).isSome = true :=
      cutAll_isSome_iff.2 ⟨pieces, [], hall, by rw [hcs, List.append_nil], rfl⟩
    obtain ⟨ps, hps⟩ := Option.isSome_iff_exists.1 hsome
    obtain ⟨hall', hcs'⟩ := hsound hps
    rw [hps, hunique ps pieces hall' hall hcs' hcs]

/-! ### Combinations -/

theorem Shape.matches_word_iff {w : List Char} : (Shape.word w).Matches false cs ↔ cs = w := by
  rw [word, matches_words_iff]
  simp only [List.mem_singleton, exists_eq_left, sameTexts_false]
  exact eq_comm

/-- Two pieces that agree with one word at the front of one text are the same. -/
theorem append_inj_of_word {w p q r t : List Char} (hp : (Shape.word w).Matches anyCase p)
    (hq : (Shape.word w).Matches anyCase q) (h : p ++ r = q ++ t) : p = q ∧ r = t := by
  obtain ⟨u, hu, hp⟩ := Shape.matches_words_iff.1 hp
  obtain ⟨v, hv, hq⟩ := Shape.matches_words_iff.1 hq
  obtain rfl : u = v := (List.mem_singleton.1 hu).trans (List.mem_singleton.1 hv).symm
  exact List.append_inj h ((length_eq_of_sameTexts hp).symm.trans (length_eq_of_sameTexts hq))

theorem Shape.matches_seq_iff {a b : Shape} :
    (Shape.seq a b).Matches anyCase cs ↔ ∃ p q, cs = p ++ q ∧ a.Matches anyCase p ∧ b.Matches anyCase q := by
  constructor
  · intro h
    cases h with
    | seq ha hb => exact ⟨_, _, rfl, ha, hb⟩
  · rintro ⟨p, q, rfl, ha, hb⟩
    exact .seq ha hb

theorem Shape.matches_either_iff {a b : Shape} :
    (Shape.either a b).Matches anyCase cs ↔ a.Matches anyCase cs ∨ b.Matches anyCase cs := by
  constructor
  · intro h
    cases h with
    | first h => exact .inl h
    | second h => exact .inr h
  · rintro (h | h)
    · exact .first h
    · exact .second h

/-! ### The characters of a piece -/

/-- All characters of the words and classes of the shape have the property. -/
def Shape.Within (P : Char → Prop) : Shape → Prop
  | .words ws => ∀ w ∈ ws, ∀ c ∈ w, P c
  | .run k _ _ => ∀ c, k.holds c = true → P c
  | .seq a b | .either a b => a.Within P ∧ b.Within P
  | .many a => a.Within P

theorem Shape.within_words [DecidablePred P] {ws : List (List Char)} (h : (ws.all fun w => w.all (P ·)) = true) :
    (Shape.words ws).Within P :=
  fun w hw c hc => of_decide_eq_true (List.all_eq_true.1 (List.all_eq_true.1 h w hw) c hc)

/-- Characters that agree with others have the properties of these as they are seen. -/
private theorem forall_seenAs (hP : ∀ c, P c → P (seenAs anyCase c)) {w : List Char} (hw : ∀ c ∈ w, P c)
    (h : sameTexts anyCase w cs = true) : ∀ c ∈ cs, P (seenAs anyCase c) := by
  induction w generalizing cs with
  | nil =>
    cases cs with
    | nil => simp
    | cons c cs => cases h
  | cons d w ih =>
    cases cs with
    | nil => cases h
    | cons c cs =>
      simp only [sameTexts, sameUpToCase_eq, Bool.and_eq_true, beq_iff_eq] at h
      refine List.forall_mem_cons.2 ⟨?_, ih (fun e he => hw e (List.mem_cons_of_mem _ he)) h.2⟩
      rw [← h.1]
      exact hP d (hw d List.mem_cons_self)

theorem Shape.Within.of_matches (h : s.Within P) (hP : ∀ c, P c → P (seenAs anyCase c)) (hm : s.Matches anyCase cs) :
    ∀ c ∈ cs, P (seenAs anyCase c) := by
  induction hm with
  | words hw hsame => exact forall_seenAs hP (h _ hw) hsame
  | run hall => exact fun c hc => h _ (hall c hc)
  | seq _ _ iha ihb => exact List.forall_mem_append.2 ⟨iha h.1, ihb h.2⟩
  | first _ ih => exact ih h.1
  | second _ ih => exact ih h.2
  | none => simp
  | more _ _ iha ihb => exact List.forall_mem_append.2 ⟨iha h, ihb h⟩

/-- No piece of the shape is empty, and each begins with a character that has the property. -/
def Shape.BeginsIn (P : Char → Prop) : Shape → Prop
  | .words ws => ∀ w ∈ ws, ∃ c ∈ w.head?, P c
  | .run k least _ => 0 < least ∧ ∀ c, k.holds c = true → P c
  | .seq a _ => a.BeginsIn P
  | .either a b => a.BeginsIn P ∧ b.BeginsIn P
  | .many _ => False

theorem Shape.beginsIn_words [DecidablePred P] {ws : List (List Char)}
    (h : (ws.all fun w => w.head?.any (P ·)) = true) : (Shape.words ws).BeginsIn P := by
  intro w hw
  obtain ⟨c, hc, hP⟩ := (Option.any_eq_true _ _).1 (List.all_eq_true.1 h w hw)
  exact ⟨c, hc, of_decide_eq_true hP⟩

theorem Shape.BeginsIn.of_matches (h : s.BeginsIn P) (hP : ∀ c, P c → P (seenAs anyCase c))
    (hm : s.Matches anyCase cs) : ∃ c ∈ cs.head?, P (seenAs anyCase c) := by
  induction hm with
  | @words ws w cs hw hsame =>
    obtain ⟨d, hd, hPd⟩ := h w hw
    obtain ⟨w', rfl⟩ := List.head?_eq_some_iff.1 hd
    cases cs with
    | nil => cases hsame
    | cons c cs =>
      simp only [sameTexts, sameUpToCase_eq, Bool.and_eq_true, beq_iff_eq] at hsame
      exact ⟨c, rfl, hsame.1 ▸ hP d hPd⟩
  | @run k least most cs hall hleast =>
    cases cs with
    | nil => exact absurd hleast (Nat.not_le.2 h.1)
    | cons c cs => exact ⟨c, rfl, h.2 _ (hall c List.mem_cons_self)⟩
  | seq _ _ iha =>
    obtain ⟨c, hc, hP⟩ := iha h
    exact ⟨c, by rw [List.head?_append, hc]; rfl, hP⟩
  | first _ ih => exact ih h.1
  | second _ ih => exact ih h.2
  | none => exact absurd h id
  | more => exact absurd h id

end CivilTime
