import CivilTime.Pattern.Writing
import CivilTime.Pattern.Grammar
import CivilTime.Proofs.Text.Folding
import CivilTime.Proofs.Text.Numerals
import CivilTime.Proofs.Text.Preferred

/-!
# Offsets written and read

The letters Z, X, x and O write offsets of at most eighteen hours, rounded down to whole minutes. In front of a text with
which no offset can go on (`OffsetEnds`), the shape of the letter prefers exactly what the letter writes
(`prefers_writeField_offset`), and that is read as the offset again (`readZone?_writeField`).
-/

namespace CivilTime

/-- A text with which an offset cannot go on. -/
def OffsetEnds (rest : List Char) : Prop :=
  ∀ c ∈ rest.head?, isDigit c = false ∧ c ≠ ':' ∧ c ≠ '+' ∧ c ≠ '-'

variable {anyCase : Bool} {rest : List Char} {n : Nat} {minutes : Int}

/-! ### Signs and digits -/

private theorem prefers_sign (anyCase : Bool) (minutes : Int) (rest : List Char) :
    (Shape.run .sign 1 (some 1)).Prefers anyCase (offsetSign minutes).toList rest := by
  unfold offsetSign
  split
  · exact Shape.prefers_run (List.all_eq_true.1 (by cases anyCase <;> decide +kernel)) (by decide) (by decide) (.inl rfl)
  · exact Shape.prefers_run (List.all_eq_true.1 (by cases anyCase <;> decide +kernel)) (by decide) (by decide) (.inl rfl)

private theorem prefers_two (h : n < 100) {least : Nat} (hl : least ≤ 2) :
    (Shape.run .digit least (some 2)).Prefers anyCase (padded 2 n).toList rest := by
  have hlen := length_padded_two h
  refine Shape.prefers_run (fun c hc => accepts_digit (isDigit_of_mem_padded hc)) (by omega) ?_ (.inl ?_)
  · intro m hm
    cases hm
    omega
  · rw [hlen]

/-- What begins with a digit does not begin with a colon, and the like. -/
private theorem restAfter?_none {w : Char} {ws cs : List Char} (hw : w.toNat < 0x80) (hno : w.isAlpha = false)
    (h : ∀ c ∈ cs.head?, c ≠ w) : restAfter? anyCase (w :: ws) cs = none := by
  cases cs with
  | nil => rfl
  | cons c cs =>
    rw [restAfter?, if_neg]
    intro hc
    exact h c rfl (eq_of_sameUpToCase hw hno hc)

private theorem cuts_colon_nil {cs : List Char} (h : ∀ c ∈ cs.head?, c ≠ ':') :
    (Shape.word [':']).cuts anyCase cs = [] := by
  refine Shape.cuts_words_nil fun w hw => ?_
  rw [List.mem_singleton.1 hw]
  exact restAfter?_none (by decide) (by decide) h

private theorem cuts_digits_nil {least : Nat} {most : Option Nat} {cs : List Char} (hleast : 0 < least)
    (h : ∀ c ∈ cs.head?, isDigit c = false) : (Shape.run .digit least most).cuts anyCase cs = [] := by
  refine Shape.cuts_run_nil hleast fun c hc => ?_
  rw [← Bool.not_eq_true]
  intro hacc
  have := h c hc
  rw [isDigit_of_accepts hacc] at this
  cases this

private theorem cuts_sign_nil {cs : List Char} (h : ∀ c ∈ cs.head?, c ≠ '+' ∧ c ≠ '-') :
    (Shape.run .sign 1 (some 1)).cuts anyCase cs = [] := by
  refine Shape.cuts_run_nil (by decide) fun c hc => ?_
  rw [← Bool.not_eq_true]
  intro hacc
  have := h c hc
  rcases eq_of_accepts_sign hacc with e | e
  · exact this.1 e
  · exact this.2 e

private theorem ne_colon_of_mem_padded {w : Nat} {c : Char} (h : c ∈ (padded w n).toList) : c ≠ ':' := by
  rintro rfl
  have := isDigit_of_mem_padded h
  cases this

/-! ### Minutes -/

/-- The minutes as they are written: after a colon or not. -/
private def minutesText (colon : Bool) (n : Nat) : List Char :=
  (if colon then ":" else "").toList ++ (padded 2 n).toList

private theorem prefers_minutes (h : n < 100) (colon : Bool) :
    minutesShape.Prefers anyCase (minutesText colon n) rest := by
  refine Shape.prefers_seq ?_ (prefers_two h (by decide))
  cases colon with
  | true => exact Shape.prefers_first (Shape.prefers_word anyCase [':'] _)
  | false =>
    refine Shape.prefers_nothing (cuts_colon_nil fun c hc => ?_)
    have hmem : c ∈ (padded 2 n).toList := by
      have hpos := length_padded_pos 2 n
      cases hp : (padded 2 n).toList with
      | nil =>
        rw [hp] at hpos
        exact absurd hpos (by decide)
      | cons d ds =>
        rw [hp, List.cons_append] at hc
        cases hc
        exact List.mem_cons_self
    exact ne_colon_of_mem_padded hmem

private theorem prefers_colonMinutes (h : n < 100) : colonMinutes.Prefers anyCase (minutesText true n) rest :=
  Shape.prefers_seq (Shape.prefers_word anyCase [':'] _) (prefers_two h (by decide))

/-- In front of a text with which no offset goes on there are no minutes. -/
private theorem cuts_minutes_nil (h : OffsetEnds rest) : minutesShape.cuts anyCase rest = [] := by
  have hcolon := @cuts_colon_nil anyCase rest fun c hc => (h c hc).2.1
  have hdigits := @cuts_digits_nil anyCase 2 (some 2) rest (by decide) fun c hc => (h c hc).1
  have hnothing := Shape.prefers_word anyCase [] rest
  unfold minutesShape Shape.optional
  simp only [Shape.cuts] at hcolon hdigits ⊢
  rw [hcolon]
  simp [Shape.word, Shape.cuts, restAfter?, hdigits]

private theorem cuts_colonMinutes_nil (h : OffsetEnds rest) : colonMinutes.cuts anyCase rest = [] :=
  Shape.cuts_seq_nil (cuts_colon_nil fun c hc => (h c hc).2.1)

/-! ### Reading the parts -/

private theorem filter_padded (w n : Nat) : (padded w n).toList.filter (· != ':') = (padded w n).toList := by
  rw [List.filter_eq_self]
  intro c hc
  simpa using ne_colon_of_mem_padded hc

private theorem filter_minutesText (colon : Bool) (n : Nat) :
    (minutesText colon n).filter (· != ':') = (padded 2 n).toList := by
  unfold minutesText
  rw [List.filter_append, filter_padded]
  cases colon <;> simp

/-- Sign, hours and minutes make up the offset, when it is not greater than eighteen hours. -/
private theorem offsetOfDigits?_eq (h : minutes.natAbs ≤ 1080) {w : Nat} {tail : List Char}
    (ht : numeralValue (tail.filter (· != ':')) = minutes.natAbs % 60) :
    offsetOfDigits? (offsetSign minutes).toList (padded w (minutes.natAbs / 60)).toList tail = some (60 * minutes) := by
  have hsign : ((offsetSign minutes).toList = ['-']) ↔ minutes < 0 := by
    unfold offsetSign
    split
    · rename_i hneg
      exact iff_of_true rfl hneg
    · rename_i hneg
      exact iff_of_false (by decide) hneg
  simp only [offsetOfDigits?]
  rw [numeralValue_padded, ht, if_neg]
  · by_cases hneg : minutes < 0
    · rw [if_pos (hsign.2 hneg)]
      exact congrArg some (by omega)
    · rw [if_neg fun e => hneg (hsign.1 e)]
      exact congrArg some (by omega)
  · simp only [Bool.or_eq_true, decide_eq_true_eq]
    omega

/-! ### Offsets that stand alone -/

private theorem offsetSign_cases (minutes : Int) :
    (offsetSign minutes).toList = ['+'] ∨ (offsetSign minutes).toList = ['-'] := by
  unfold offsetSign
  split
  · exact .inr rfl
  · exact .inl rfl

/-- What begins like no name of the zero meridian is no offset after one. -/
private theorem readPrefixedOffset?_eq_none {cs : List Char} (h : ∀ c ∈ cs.head?, c ≠ 'G' ∧ c ≠ 'U') :
    readPrefixedOffset? cs = none := by
  have hfirst : ∀ w ∈ meridianNames, w.head? = some 'G' ∨ w.head? = some 'U' := by decide
  unfold readPrefixedOffset?
  rw [cutAll_cons, Shape.cuts_words_nil fun w hw => ?_]
  · rfl
  · have hd := hfirst w hw
    cases w with
    | nil => exact absurd hd (by decide)
    | cons d ws =>
      cases cs with
      | nil => rfl
      | cons c cs =>
        obtain ⟨hG, hU⟩ := h c rfl
        rw [restAfter?, sameUpToCase_false, if_neg]
        rw [beq_iff_eq]
        rintro rfl
        exact hd.elim (fun e => hG (Option.some.inj e)) fun e => hU (Option.some.inj e)

private theorem readOffset?_of_sign {text : String} {cs : List Char} (ht : text.toList = (offsetSign minutes).toList ++ cs) :
    readOffset? text = readBareOffset? ((offsetSign minutes).toList ++ cs) := by
  have hne : ∀ s : String, s.toList.head? ≠ some '+' → s.toList.head? ≠ some '-' → text ≠ s := by
    rintro s h1 h2 rfl
    rcases offsetSign_cases minutes with e | e
    · rw [ht, e] at h1
      exact h1 rfl
    · rw [ht, e] at h2
      exact h2 rfl
  unfold readOffset?
  have hprefixed : readPrefixedOffset? ((offsetSign minutes).toList ++ cs) = none := by
    refine readPrefixedOffset?_eq_none fun c hc => ?_
    rcases offsetSign_cases minutes with e | e <;> rw [e] at hc <;> cases hc <;> decide
  rw [if_neg (hne _ (by decide) (by decide)), if_neg (hne _ (by decide) (by decide)), if_neg, ht, hprefixed,
    Option.getD_none]
  rw [Bool.or_eq_true, decide_eq_true_eq, decide_eq_true_eq]
  rintro (h | h)
  · exact hne _ (by decide) (by decide) h
  · exact hne _ (by decide) (by decide) h

private theorem readBareOffset?_eq (h : minutes.natAbs ≤ 1080) {tail : List Char}
    (ht : numeralValue (tail.filter (· != ':')) = minutes.natAbs % 60)
    (hp : (Shape.optional minutesShape).Prefers false tail []) :
    readBareOffset? ((offsetSign minutes).toList ++ ((padded 2 (minutes.natAbs / 60)).toList ++ tail)) =
      some ⟨60 * minutes, offsetId (60 * minutes)⟩ := by
  have hpieces : AllPrefer false [.run .sign 1 (some 1), .run .digit 2 (some 2), .optional minutesShape]
      [(offsetSign minutes).toList, (padded 2 (minutes.natAbs / 60)).toList, tail] :=
    ⟨prefers_sign false minutes _, prefers_two (by omega) (by decide), hp, trivial⟩
  have hcut := @cutAll_eq_of_allPrefer false List.isEmpty rfl _ _ hpieces
  rw [List.flatten_cons, List.flatten_cons, List.flatten_cons, List.flatten_nil, List.append_nil] at hcut
  unfold readBareOffset?
  rw [hcut]
  dsimp only
  rw [offsetOfDigits?_eq h ht]
  rfl

private theorem toList_isoOffset (colon : Bool) (offset : Int) :
    (isoOffset colon offset).toList = (offsetSign (offset / 60)).toList ++
      ((padded 2 ((offset / 60).natAbs / 60)).toList ++ minutesText colon ((offset / 60).natAbs % 60)) := by
  simp [isoOffset, minutesText]

theorem readOffset?_isoOffset {offset : Int} (h : offset.natAbs ≤ 64800) (colon : Bool) :
    readOffset? (isoOffset colon offset) = some ⟨60 * (offset / 60), offsetId (60 * (offset / 60))⟩ := by
  rw [readOffset?_of_sign (toList_isoOffset colon offset)]
  refine readBareOffset?_eq (by omega) ?_ (Shape.prefers_first (prefers_minutes (by omega) colon))
  rw [filter_minutesText, numeralValue_padded]

theorem readOffset?_isoHours {offset : Int} (h : offset.natAbs ≤ 64800) :
    readOffset? (isoHours offset) = some ⟨60 * (offset / 60), offsetId (60 * (offset / 60))⟩ := by
  unfold isoHours
  dsimp only
  split
  · rename_i hzero
    have ht : (offsetSign (offset / 60) ++ padded 2 ((offset / 60).natAbs / 60)).toList =
        (offsetSign (offset / 60)).toList ++ ((padded 2 ((offset / 60).natAbs / 60)).toList ++ []) := by
      simp
    rw [readOffset?_of_sign ht]
    refine readBareOffset?_eq (by omega) ?_ (Shape.prefers_nothing (cuts_minutes_nil ?_))
    · rw [hzero]
      rfl
    · intro c hc
      cases hc
  · exact readOffset?_isoOffset h false

/-! ### Offsets after the name of the zero meridian -/

private theorem prefers_meridian (anyCase : Bool) (rest : List Char) :
    (Shape.words meridianNames).Prefers anyCase "GMT".toList rest := by
  have hlen : ∀ w ∈ meridianNames, w.length ≤ "GMT".toList.length := by decide
  exact Shape.prefers_words (by decide) (by decide) fun w hw _ => hlen w hw

private theorem readOffset?_gmt {w : Nat} (h : minutes.natAbs ≤ 1080) {text : String} {tail : List Char}
    (htext : text.toList =
      "GMT".toList ++ ((offsetSign minutes).toList ++ ((padded w (minutes.natAbs / 60)).toList ++ tail)))
    (ht : numeralValue (tail.filter (· != ':')) = minutes.natAbs % 60)
    (hh : (Shape.run .digit 1 (some 2)).Prefers false (padded w (minutes.natAbs / 60)).toList tail)
    (hp : (Shape.optional minutesShape).Prefers false tail []) :
    readOffset? text = some ⟨60 * minutes, gmtOffset true (60 * minutes)⟩ := by
  have hlen : 3 < text.toList.length := by
    have hpos := length_padded_pos w (minutes.natAbs / 60)
    rw [htext, List.length_append, List.length_append, List.length_append]
    have : "GMT".toList.length = 3 := rfl
    omega
  have hne : ∀ s : String, s.toList.length ≤ 3 → text ≠ s := by
    rintro s hs rfl
    omega
  have hpieces : AllPrefer false
      [.words meridianNames, .run .sign 1 (some 1), .run .digit 1 (some 2), .optional minutesShape]
      ["GMT".toList, (offsetSign minutes).toList, (padded w (minutes.natAbs / 60)).toList, tail] := by
    refine ⟨prefers_meridian false _, prefers_sign false minutes _, ?_, hp, trivial⟩
    rw [List.flatten_cons, List.flatten_nil, List.append_nil]
    exact hh
  have hcut := @cutAll_eq_of_allPrefer false List.isEmpty rfl _ _ hpieces
  rw [List.flatten_cons, List.flatten_cons, List.flatten_cons, List.flatten_cons, List.flatten_nil, List.append_nil,
    ← htext] at hcut
  unfold readOffset? readPrefixedOffset?
  rw [if_neg (hne _ (by decide)), if_neg (hne _ (by decide)), if_neg, hcut]
  · dsimp only
    rw [offsetOfDigits?_eq h ht]
    rfl
  · rw [Bool.or_eq_true, decide_eq_true_eq, decide_eq_true_eq]
    rintro (e | e)
    · exact hne _ (by decide) e
    · exact hne _ (by decide) e

/-- Hours as they stand after the name of the zero meridian, in front of what cannot be a digit of theirs. -/
private theorem prefers_looseHours (h : n < 100) (hrest : ∀ c ∈ rest.head?, isDigit c = false) :
    looseHours.Prefers anyCase (padded 1 n).toList rest := by
  have hle := @length_padded_le 1 n 2 (by decide) h
  have hpos := length_padded_pos 1 n
  refine Shape.prefers_run (fun c hc => accepts_digit (isDigit_of_mem_padded hc)) (by omega) ?_ (.inr fun c hc => ?_)
  · intro m hm
    cases hm
    omega
  · rw [← Bool.not_eq_true]
    intro hacc
    have := hrest c hc
    rw [isDigit_of_accepts hacc] at this
    cases this

/-- The minutes after the letters GMT: none where they are zero and may be left out. -/
private def gmtTail (full : Bool) (minutes : Int) : List Char :=
  if full = false ∧ minutes.natAbs % 60 = 0 then [] else minutesText true (minutes.natAbs % 60)

private theorem toList_gmtOffset (full : Bool) {offset : Int} (h : offset / 60 ≠ 0) :
    (gmtOffset full offset).toList = "GMT".toList ++ ((offsetSign (offset / 60)).toList ++
      ((padded (if full then 2 else 1) ((offset / 60).natAbs / 60)).toList ++ gmtTail full (offset / 60))) := by
  unfold gmtOffset gmtTail
  cases full with
  | true => simp [h, toList_isoOffset]
  | false =>
    simp only [h, if_false, Bool.false_eq_true, true_and, String.toList_append, List.append_assoc]
    split <;> simp [minutesText]

private theorem head?_gmtTail (full : Bool) (minutes : Int) (rest : List Char) (h : OffsetEnds rest) :
    ∀ c ∈ (gmtTail full minutes ++ rest).head?, isDigit c = false := by
  unfold gmtTail
  split
  · intro c hc
    exact (h c hc).1
  · intro c hc
    cases hc
    decide +kernel

private theorem prefers_gmtHours (full : Bool) (h : n < 100) (hrest : ∀ c ∈ rest.head?, isDigit c = false) :
    looseHours.Prefers anyCase (padded (if full then 2 else 1) n).toList rest := by
  cases full with
  | true => exact prefers_two h (by decide)
  | false => exact prefers_looseHours h hrest

theorem readOffset?_gmtOffset {offset : Int} (h : offset.natAbs ≤ 64800) (full : Bool) :
    readOffset? (gmtOffset full offset) = some ⟨60 * (offset / 60), gmtOffset true (60 * (offset / 60))⟩ := by
  by_cases hzero : offset / 60 = 0
  · have htext : gmtOffset full offset = "GMT" := by
      unfold gmtOffset
      dsimp only
      rw [if_pos hzero]
    rw [htext, hzero]
    decide
  · refine readOffset?_gmt (by omega) (toList_gmtOffset full hzero) ?_ ?_ ?_
    · unfold gmtTail
      split
      · rename_i hm
        rw [hm.2]
        rfl
      · rw [filter_minutesText, numeralValue_padded]
    · have hhead := head?_gmtTail full (offset / 60) [] (fun c hc => by cases hc)
      rw [List.append_nil] at hhead
      exact prefers_gmtHours full (by omega) hhead
    · unfold gmtTail
      split
      · exact Shape.prefers_nothing (cuts_minutes_nil fun c hc => by cases hc)
      · exact Shape.prefers_first (prefers_minutes (by omega) true)

/-! ### What the letters write -/

/-- The letters that write an offset. -/
def Letter.isOffset : Letter → Bool
  | offset | isoOffset | isoDigits | gmtOffset => true
  | _ => false

variable {names : Names} {letter : Letter} {width : Nat} {m : Moment}

private theorem readOffset?_writeIsoDigits (width : Nat) {offset : Int} (h : offset.natAbs ≤ 64800) :
    ∃ name, readOffset? (writeIsoDigits width offset) = some ⟨60 * (offset / 60), name⟩ := by
  unfold writeIsoDigits
  split
  · exact ⟨_, readOffset?_isoHours h⟩
  · exact ⟨_, readOffset?_isoOffset h _⟩

/-- What a letter for offsets writes is read as the offset, rounded down to minutes. -/
theorem readOffset?_writeField (hl : letter.isOffset = true) (h : m.offset.natAbs ≤ 64800) :
    ∃ name, readOffset? (writeField names letter width m) = some ⟨60 * (m.offset / 60), name⟩ := by
  have hzero : m.offset = 0 → ∃ name, readOffset? "Z" = some ⟨60 * (m.offset / 60), name⟩ := by
    intro e
    rw [e]
    exact ⟨"Z", rfl⟩
  cases letter with
  | offset =>
    simp only [writeField, offsetId]
    split
    · exact ⟨_, readOffset?_gmtOffset h true⟩
    · split
      · split
        · exact hzero ‹_›
        · exact ⟨_, readOffset?_isoOffset h true⟩
      · exact ⟨_, readOffset?_isoOffset h false⟩
  | isoOffset =>
    simp only [writeField]
    split
    · exact hzero ‹_›
    · exact readOffset?_writeIsoDigits width h
  | isoDigits => exact readOffset?_writeIsoDigits width h
  | gmtOffset => exact ⟨_, readOffset?_gmtOffset h _⟩
  | _ => cases hl

/-- The characters are their own capital forms. -/
def IsCapital (cs : List Char) : Prop := ∀ c ∈ cs, c.toNat < 0x80 ∧ c.toUpper = c

instance (cs : List Char) : Decidable (IsCapital cs) :=
  List.decidableBAll _ cs

private theorem IsCapital.append {cs ds : List Char} (hc : IsCapital cs) (hd : IsCapital ds) : IsCapital (cs ++ ds) := by
  intro c hmem
  rcases List.mem_append.1 hmem with h | h
  · exact hc c h
  · exact hd c h

private theorem isCapital_padded (w n : Nat) : IsCapital (padded w n).toList := by
  intro c hc
  obtain ⟨h1, h2⟩ := toNat_of_isDigit (isDigit_of_mem_padded hc)
  have hall : ∀ n < 58, 48 ≤ n → (Char.ofNat n).toUpper = Char.ofNat n := by decide
  have := hall c.toNat (by omega) h1
  rw [Char.ofNat_toNat] at this
  exact ⟨by omega, this⟩

private theorem isCapital_offsetSign (minutes : Int) : IsCapital (offsetSign minutes).toList := by
  rcases offsetSign_cases minutes with e | e
  · rw [e]
    decide
  · rw [e]
    decide

private theorem isCapital_minutesText (colon : Bool) (n : Nat) : IsCapital (minutesText colon n) := by
  refine IsCapital.append ?_ (isCapital_padded 2 n)
  cases colon <;> decide

theorem isCapital_isoOffset (colon : Bool) (offset : Int) : IsCapital (isoOffset colon offset).toList := by
  rw [toList_isoOffset]
  exact (isCapital_offsetSign _).append ((isCapital_padded _ _).append (isCapital_minutesText _ _))

private theorem isCapital_isoHours (offset : Int) : IsCapital (isoHours offset).toList := by
  unfold isoHours
  dsimp only
  split
  · rw [String.toList_append]
    exact (isCapital_offsetSign _).append (isCapital_padded _ _)
  · exact isCapital_isoOffset false offset

theorem isCapital_gmtOffset (full : Bool) (offset : Int) : IsCapital (gmtOffset full offset).toList := by
  by_cases hzero : offset / 60 = 0
  · unfold gmtOffset
    dsimp only
    rw [if_pos hzero]
    decide
  · rw [toList_gmtOffset full hzero]
    refine IsCapital.append (by decide) ((isCapital_offsetSign _).append ((isCapital_padded _ _).append ?_))
    unfold gmtTail
    split
    · decide
    · exact isCapital_minutesText true _

private theorem isCapital_writeField (hl : letter.isOffset = true) : IsCapital (writeField names letter width m).toList := by
  have hdigits : ∀ offset, IsCapital (writeIsoDigits width offset).toList := by
    intro offset
    unfold writeIsoDigits
    split
    · exact isCapital_isoHours offset
    · exact isCapital_isoOffset _ offset
  cases letter with
  | offset =>
    simp only [writeField, offsetId]
    split
    · exact isCapital_gmtOffset true _
    · split
      · split
        · decide
        · exact isCapital_isoOffset true _
      · exact isCapital_isoOffset false _
  | isoOffset =>
    simp only [writeField]
    split
    · decide
    · exact hdigits _
  | isoDigits => exact hdigits _
  | gmtOffset => exact isCapital_gmtOffset _ _
  | _ => cases hl

/-- In capitals an offset is read alike exactly and in any letter case. -/
private theorem readZone?_of_isCapital {text : String} {o : NamedOffset} (hcapital : IsCapital text.toList)
    (h : readOffset? text = some o) (anyCase : Bool) (db : Database) : readZone? anyCase text db = some (.ofOffset o) := by
  have hcanonical : canonicalZoneText db text = text := by
    unfold canonicalZoneText
    dsimp only
    rw [upperText_eq_self fun c hc => .inl (hcapital c hc), String.ofList_toList, h]
    rfl
  unfold readZone? readExactZone?
  rw [hcanonical, ite_self, h]

/-- What a letter for offsets writes is read as that offset, exactly or in any letter case. -/
theorem readZone?_writeField (hl : letter.isOffset = true) (h : m.offset.natAbs ≤ 64800) (anyCase : Bool)
    (db : Database) :
    readZone? anyCase (writeField names letter width m) db =
      (readOffset? (writeField names letter width m)).map .ofOffset := by
  obtain ⟨name, hname⟩ := @readOffset?_writeField names letter width m hl h
  rw [readZone?_of_isCapital (isCapital_writeField hl) hname, hname]
  rfl

/-- An offset after the letters GMT is read as a fixed offset, exactly or in any letter case. -/
theorem readZone?_gmtOffset {offset : Int} (h : offset.natAbs ≤ 64800) (full anyCase : Bool) (db : Database) :
    ∃ name, readZone? anyCase (gmtOffset full offset) db = some (.fixed (60 * (offset / 60)) name) :=
  ⟨_, readZone?_of_isCapital (isCapital_gmtOffset full offset) (readOffset?_gmtOffset h full) anyCase db⟩

/-! ### What the letters accept -/

private theorem cuts_word_nil {w c : Char} {ws cs : List Char} (h : sameUpToCase anyCase w c = false) :
    (Shape.word (w :: ws)).cuts anyCase (c :: cs) = [] := by
  refine Shape.cuts_words_nil fun v hv => ?_
  rw [List.mem_singleton.1 hv, restAfter?, h]
  rfl

private theorem prefers_bare {tail : List Char} {hours : Nat} (h : hours < 100) {q : Shape} (hq : q.Prefers anyCase tail rest) :
    (Shape.seq (.run .sign 1 (some 1)) (.seq fixedHours q)).Prefers anyCase
      ((offsetSign minutes).toList ++ ((padded 2 hours).toList ++ tail)) rest :=
  Shape.prefers_seq (prefers_sign _ _ _) (Shape.prefers_seq (prefers_two h (by decide)) hq)

private theorem prefers_isoOffset {offset : Int} (h : offset.natAbs ≤ 64800) (colon : Bool) :
    (Shape.seq (.run .sign 1 (some 1)) (.seq fixedHours minutesShape)).Prefers anyCase
      (isoOffset colon offset).toList rest := by
  rw [toList_isoOffset]
  exact prefers_bare (by omega) (prefers_minutes (by omega) colon)

private theorem prefers_writeIsoDigits {offset : Int} (h : offset.natAbs ≤ 64800) (hrest : OffsetEnds rest)
    (width : Nat) :
    (Shape.seq (.run .sign 1 (some 1)) (.seq fixedHours (.optional minutesShape))).Prefers anyCase
      (writeIsoDigits width offset).toList rest := by
  have hiso : ∀ colon, (Shape.seq (.run .sign 1 (some 1)) (.seq fixedHours (.optional minutesShape))).Prefers anyCase
      (isoOffset colon offset).toList rest := by
    intro colon
    rw [toList_isoOffset]
    exact prefers_bare (by omega) (Shape.prefers_first (prefers_minutes (by omega) colon))
  unfold writeIsoDigits isoHours
  dsimp only
  split
  · split
    · rw [String.toList_append, ← List.append_nil (padded 2 _).toList]
      exact prefers_bare (by omega) (Shape.prefers_nothing (cuts_minutes_nil hrest))
    · exact hiso false
  · exact hiso _

private theorem prefers_gmtOffset {offset : Int} (h : offset.natAbs ≤ 64800) (hrest : OffsetEnds rest) (full : Bool)
    {p q : Shape} (hp : ∀ rest, p.Prefers anyCase "GMT".toList rest)
    (hq : q.Prefers anyCase (minutesText true ((offset / 60).natAbs % 60)) rest) (hnil : q.cuts anyCase rest = []) :
    (Shape.seq p (prefixedShape looseHours q)).Prefers anyCase (gmtOffset full offset).toList rest := by
  by_cases hzero : offset / 60 = 0
  · unfold gmtOffset
    dsimp only
    rw [if_pos hzero, ← List.append_nil "GMT".toList]
    refine Shape.prefers_seq (hp _) (Shape.prefers_nothing (Shape.cuts_seq_nil (cuts_sign_nil fun c hc => ?_)))
    exact (hrest c hc).2.2
  · rw [toList_gmtOffset full hzero]
    refine Shape.prefers_seq (hp _) (Shape.prefers_first (Shape.prefers_seq (prefers_sign _ _ _)
      (Shape.prefers_seq (prefers_gmtHours full (by omega) (head?_gmtTail full _ rest hrest)) ?_)))
    unfold gmtTail
    split
    · exact Shape.prefers_nothing hnil
    · exact Shape.prefers_first hq

/-- The letters for zones prefer an offset after the letters GMT. -/
theorem prefers_zoneId_gmtOffset {offset : Int} (h : offset.natAbs ≤ 64800) (hrest : OffsetEnds rest) (full : Bool) :
    (zoneShape .zoneId).Prefers anyCase (gmtOffset full offset).toList rest :=
  Shape.prefers_first (prefers_gmtOffset h hrest full (prefers_meridian anyCase) (prefers_minutes (by omega) true)
    (cuts_minutes_nil hrest))

private theorem gmtOffset_cons (full : Bool) (offset : Int) : ∃ cs, (gmtOffset full offset).toList = 'G' :: cs := by
  by_cases hzero : offset / 60 = 0
  · unfold gmtOffset
    dsimp only
    rw [if_pos hzero]
    exact ⟨_, rfl⟩
  · rw [toList_gmtOffset full hzero]
    exact ⟨_, rfl⟩

private theorem writeIsoDigits_cons (width : Nat) (offset : Int) :
    ∃ c cs, (writeIsoDigits width offset).toList = c :: cs ∧ (c = '+' ∨ c = '-') := by
  have hsign : ∃ cs, (writeIsoDigits width offset).toList = (offsetSign (offset / 60)).toList ++ cs := by
    unfold writeIsoDigits isoHours
    dsimp only
    split
    · split
      · exact ⟨_, String.toList_append⟩
      · exact ⟨_, toList_isoOffset _ _⟩
    · exact ⟨_, toList_isoOffset _ _⟩
  obtain ⟨cs, hcs⟩ := hsign
  rcases offsetSign_cases (offset / 60) with e | e
  · exact ⟨'+', cs, by rw [hcs, e]; rfl, .inl rfl⟩
  · exact ⟨'-', cs, by rw [hcs, e]; rfl, .inr rfl⟩

/-- The form that names an offset begins with a sign, but for an offset of zero. -/
theorem offsetId_cases (offset : Int) :
    (offset = 0 ∧ offsetId offset = "Z") ∨ ∃ c cs, (offsetId offset).toList = c :: cs ∧ (c = '+' ∨ c = '-') := by
  unfold offsetId
  split
  · rename_i hzero
    exact .inl ⟨hzero, rfl⟩
  · exact .inr (writeIsoDigits_cons 3 offset)

/-- What a letter for offsets writes begins with no digit. -/
theorem exists_cons_writeField_offset (hl : letter.isOffset = true) :
    ∃ c cs, (writeField names letter width m).toList = c :: cs ∧ isDigit c = false := by
  have hgmt : ∀ full offset, ∃ c cs, (gmtOffset full offset).toList = c :: cs ∧ isDigit c = false := by
    intro full offset
    obtain ⟨cs, hcs⟩ := gmtOffset_cons full offset
    exact ⟨'G', cs, hcs, by decide +kernel⟩
  have hdigits : ∀ width offset, ∃ c cs, (writeIsoDigits width offset).toList = c :: cs ∧ isDigit c = false := by
    intro width offset
    obtain ⟨c, cs, hcs, hc⟩ := writeIsoDigits_cons width offset
    refine ⟨c, cs, hcs, ?_⟩
    rcases hc with rfl | rfl
    · decide +kernel
    · decide +kernel
  have hzero : ∃ c cs, "Z".toList = c :: cs ∧ isDigit c = false := ⟨'Z', [], rfl, by decide +kernel⟩
  cases letter with
  | offset =>
    simp only [writeField, offsetId]
    split
    · exact hgmt true _
    · split
      · split
        · exact hzero
        · exact hdigits 3 _
      · exact hdigits 2 _
  | isoOffset =>
    simp only [writeField]
    split
    · exact hzero
    · exact hdigits _ _
  | isoDigits => exact hdigits _ _
  | gmtOffset => exact hgmt _ _
  | _ => cases hl

/-- The shape of a letter for offsets prefers what the letter writes. -/
theorem prefers_writeField_offset (hl : letter.isOffset = true) (h : m.offset.natAbs ≤ 64800)
    (hrest : OffsetEnds rest) : (zoneShape letter).Prefers anyCase (writeField names letter width m).toList rest := by
  have hminutes : (m.offset / 60).natAbs % 60 < 100 := by omega
  have hsignless : ∀ c cs, c ≠ '+' ∧ c ≠ '-' → (Shape.run .sign 1 (some 1)).cuts anyCase (c :: cs) = [] := by
    intro c cs hc
    refine cuts_sign_nil fun d hd => ?_
    cases hd
    exact hc
  cases letter with
  | offset =>
    simp only [writeField, zoneShape, offsetId]
    split
    · obtain ⟨cs, hcs⟩ := gmtOffset_cons true m.offset
      refine Shape.prefers_second (Shape.cuts_seq_nil ?_) (Shape.prefers_second ?_
        (prefers_gmtOffset h hrest true (Shape.prefers_word anyCase _) (prefers_minutes hminutes true)
          (cuts_minutes_nil hrest)))
      · rw [hcs]
        exact hsignless 'G' (cs ++ rest) (by decide)
      · rw [hcs]
        exact cuts_word_nil (by cases anyCase <;> decide)
    · split
      · split
        · refine Shape.prefers_second (Shape.cuts_seq_nil (hsignless 'Z' rest (by decide))) ?_
          exact Shape.prefers_first (Shape.prefers_word anyCase ['Z'] rest)
        · exact Shape.prefers_first (prefers_isoOffset h true)
      · exact Shape.prefers_first (prefers_isoOffset h false)
  | isoOffset =>
    simp only [writeField, zoneShape]
    split
    · exact Shape.prefers_first (Shape.prefers_word anyCase ['Z'] rest)
    · obtain ⟨c, cs, hcs, hc⟩ := writeIsoDigits_cons width m.offset
      refine Shape.prefers_second ?_ (prefers_writeIsoDigits h hrest width)
      rw [hcs]
      rcases hc with rfl | rfl
      · exact cuts_word_nil (by cases anyCase <;> decide)
      · exact cuts_word_nil (by cases anyCase <;> decide)
  | isoDigits => exact prefers_writeIsoDigits h hrest width
  | gmtOffset =>
    exact prefers_gmtOffset h hrest _ (Shape.prefers_word anyCase _) (prefers_colonMinutes hminutes)
      (cuts_colonMinutes_nil hrest)
  | _ => cases hl

end CivilTime
