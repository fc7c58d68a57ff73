import CivilTime.Proofs.Text.Numerals
import CivilTime.Text.Shape

/-!
# Folding letter case

Ignoring letter case blurs letters only: a character that agrees with a decimal digit up to letter case is a decimal digit
(`isDigit_of_isDigit_foldCase`), and one that agrees with a sign or another ASCII character that is no letter is that
character (`eq_of_sameUpToCase`). ASCII letters agree with characters that are folded to ASCII letters
(`isAlpha_foldCase`), and these have the lower-case form of the letter but for three (`blurredLetters`). The small letters of ASCII
agree with the capital ones in all views of letter case, so a text in small letters has the lower-case and the upper-case form of
the text (`lowerText_map_toLower`, `upperText_map_toLower`).
-/

namespace CivilTime

/-! ### Characters of ASCII -/

/-- A property of the characters of ASCII holds if it holds of the first 128 code points. -/
private theorem forall_ascii {P : Char → Prop} (h : ∀ n < 128, P (Char.ofNat n)) {c : Char} (hc : c.toNat < 0x80) :
    P c := by
  have := h c.toNat hc
  rwa [Char.ofNat_toNat] at this

private theorem toLower_lt {c : Char} (hc : c.toNat < 0x80) : c.toLower.toNat < 0x80 :=
  forall_ascii (P := fun c => c.toLower.toNat < 0x80) (by decide) hc

theorem foldCase_of_lt {c : Char} (hc : c.toNat < 0x80) : foldCase c = c.toLower := by
  have hlow : lowerChar c = c.toLower := if_pos hc
  unfold foldCase
  dsimp only
  rw [hlow, if_pos (toLower_lt hc)]

private theorem lt_of_isAlpha {c : Char} (h : c.isAlpha = true) : c.toNat < 0x80 := by
  have hruns : (decide (c.val ≥ 65 ∧ c.val ≤ 90) || (c.val ≥ 97 && c.val ≤ 122)) = true := h
  simp only [Bool.or_eq_true, Bool.and_eq_true, decide_eq_true_eq, UInt32.le_iff_toNat_le, ge_iff_le] at hruns
  have e : c.toNat = c.val.toNat := rfl
  rcases hruns with ⟨_, h⟩ | ⟨_, h⟩
  · have : c.val.toNat ≤ 90 := h
    omega
  · have : c.val.toNat ≤ 122 := h
    omega

theorem isAlpha_foldCase {c : Char} (h : c.isAlpha = true) : (foldCase c).isAlpha = true := by
  have hc := lt_of_isAlpha h
  rw [foldCase_of_lt hc]
  exact forall_ascii (P := fun c => c.isAlpha = true → c.toLower.isAlpha = true) (by decide) hc h

theorem foldCase_eq_self {c : Char} (hc : c.toNat < 0x80) (h : c.isAlpha = false) : foldCase c = c := by
  rw [foldCase_of_lt hc]
  exact forall_ascii (P := fun c => c.isAlpha = false → c.toLower = c) (by decide) hc h

private theorem exists_zero_of_isDigit {c : Char} (h : isDigit c = true) :
    ∃ z ∈ digitZeros, z ≤ c.toNat ∧ c.toNat < z + 10 := by
  unfold isDigit digitValue? at h
  rw [Option.isSome_map] at h
  obtain ⟨z, hz⟩ := Option.isSome_iff_exists.1 h
  have := List.find?_some hz
  simp only [Bool.and_eq_true, decide_eq_true_eq] at this
  exact ⟨z, List.mem_of_find?_eq_some hz, this⟩

/-- The decimal digits of ASCII are 0 to 9. -/
private theorem char_isDigit_of_lt {c : Char} (hc : c.toNat < 0x80) (h : isDigit c = true) : c.isDigit = true := by
  obtain ⟨z, hz, hle, hlt⟩ := exists_zero_of_isDigit h
  have hzeros : ∀ z ∈ digitZeros, z = 0x30 ∨ 0x80 ≤ z := by decide
  have hzero := hzeros z hz
  have hval : c.toNat = c.val.toNat := rfl
  unfold Char.isDigit
  simp only [Bool.and_eq_true, decide_eq_true_eq, UInt32.le_iff_toNat_le, ge_iff_le]
  change 48 ≤ c.val.toNat ∧ c.val.toNat ≤ 57
  omega

theorem isDigit_of_isAlpha {c : Char} (h : c.isAlpha = true) : isDigit c = false := by
  have hc := lt_of_isAlpha h
  rw [← Bool.not_eq_true]
  intro hdigit
  have hno := forall_ascii (P := fun c => c.isAlpha = true → c.isDigit = false) (by decide) hc h
  rw [char_isDigit_of_lt hc hdigit] at hno
  cases hno

/-! ### Characters outside ASCII -/

private theorem toNat_ofNat_of_valid {n : Nat} (h : n.isValidChar) : (Char.ofNat n).toNat = n := by
  have hvalid : Char.ofNat n = Char.ofNatAux n h := dif_pos h
  rw [hvalid]
  rfl

/-- The lower-case forms of a run are valid code points. -/
private def CaseRun.isValid (r : CaseRun) : Bool :=
  0 ≤ r.first + r.shift && (r.last + r.shift < 0xD800 || 0xE000 ≤ r.first + r.shift && r.last + r.shift < 0x110000)

/-- The lower-case forms of a run are ASCII letters or outside ASCII. -/
private def CaseRun.keepsLetters (r : CaseRun) : Bool :=
  0x80 ≤ r.first + r.shift || r.first == r.last && (Char.ofNat (r.first + r.shift).toNat).isAlpha

/-- No code point from `first` to `last` is a decimal digit. -/
private def avoidsDigits (first last : Nat) : Bool :=
  digitZeros.all fun z => Nat.blt last z || Nat.ble (z + 10) first

private theorem isDigit_of_avoidsDigits {first last : Nat} {c : Char} (h : avoidsDigits first last = true)
    (hfirst : first ≤ c.toNat) (hlast : c.toNat ≤ last) : isDigit c = false := by
  rw [← Bool.not_eq_true]
  intro hdigit
  obtain ⟨z, hz, hle, hlt⟩ := exists_zero_of_isDigit hdigit
  have := List.all_eq_true.1 h z hz
  simp only [Bool.or_eq_true, Nat.blt_eq, Nat.ble_eq] at this
  omega

private theorem caseRuns_check :
    (caseRuns.all fun r => r.isValid && r.keepsLetters && avoidsDigits r.first r.last &&
      avoidsDigits (r.first + r.shift).toNat (r.last + r.shift).toNat) = true := by
  decide +kernel

private theorem caseVariants_check :
    (caseVariants.all fun v => avoidsDigits v.1 v.1 && !isDigit (Char.ofNat v.2) &&
      (0x80 ≤ (Char.ofNat v.2).toNat || (Char.ofNat v.2).isAlpha)) = true := by
  decide

/-- A character outside ASCII is its own lower-case form, or its lower-case form is found in a run. -/
private theorem lowerChar_cases {c : Char} (hc : ¬c.toNat < 0x80) :
    lowerChar c = c ∨ ∃ r ∈ caseRuns, r.first ≤ c.toNat ∧ c.toNat ≤ r.last ∧
      ((lowerChar c).toNat : Int) = c.toNat + r.shift := by
  unfold lowerChar
  rw [if_neg hc]
  cases hfind : caseRuns.find? (·.holds c.toNat) with
  | none => exact .inl rfl
  | some r =>
    right
    have hmem := List.mem_of_find?_eq_some hfind
    have hholds := List.find?_some hfind
    simp only [CaseRun.holds, Bool.and_eq_true, decide_eq_true_eq] at hholds
    have hcheck := List.all_eq_true.1 caseRuns_check r hmem
    simp only [CaseRun.isValid, Bool.and_eq_true, Bool.or_eq_true, decide_eq_true_eq] at hcheck
    have hvalid : ((c.toNat + r.shift : Int).toNat).isValidChar := by
      unfold Nat.isValidChar
      omega
    refine ⟨r, hmem, hholds.1.1, hholds.1.2, ?_⟩
    dsimp only
    rw [toNat_ofNat_of_valid hvalid]
    omega

/-- The representative of a character is its lower-case form, or that of a variant, which is no digit. -/
private theorem foldCase_cases (c : Char) :
    foldCase c = lowerChar c ∨
      isDigit (foldCase c) = false ∧ (0x80 ≤ (foldCase c).toNat ∨ (foldCase c).isAlpha = true) := by
  unfold foldCase
  dsimp only
  split
  · exact .inl rfl
  · cases hlookup : caseVariants.lookup (lowerChar c).toNat with
    | none => exact .inl rfl
    | some n =>
      obtain ⟨l₁, l₂, hl, -⟩ := List.lookup_eq_some_iff.1 hlookup
      have hmem : ((lowerChar c).toNat, n) ∈ caseVariants := by
        rw [hl]
        exact List.mem_append_right _ List.mem_cons_self
      have := List.all_eq_true.1 caseVariants_check _ hmem
      simp only [Bool.and_eq_true, Bool.or_eq_true, Bool.not_eq_true', decide_eq_true_eq] at this
      exact .inr ⟨this.1.2, this.2⟩

/-! ### Digits -/

/-- Only decimal digits are folded to decimal digits. -/
theorem isDigit_of_isDigit_foldCase {c : Char} (h : isDigit (foldCase c) = true) : isDigit c = true := by
  rcases foldCase_cases c with e | ⟨hno, -⟩
  · rw [e] at h
    by_cases hc : c.toNat < 0x80
    · have hlow : lowerChar c = c.toLower := if_pos hc
      rw [hlow] at h
      exact isDigit_of_char (forall_ascii (P := fun c => c.toLower.isDigit = true → c.isDigit = true) (by decide) hc
        (char_isDigit_of_lt (toLower_lt hc) h))
    · rcases lowerChar_cases hc with e' | ⟨r, hr, hfirst, hlast, hshift⟩
      · rwa [e'] at h
      · have hcheck := List.all_eq_true.1 caseRuns_check r hr
        simp only [Bool.and_eq_true] at hcheck
        rw [isDigit_of_avoidsDigits hcheck.2 (by omega) (by omega)] at h
        cases h
  · rw [hno] at h
    cases h

/-- Decimal digits have one letter case. -/
theorem foldCase_of_isDigit {c : Char} (h : isDigit c = true) : foldCase c = c := by
  by_cases hc : c.toNat < 0x80
  · rw [foldCase_of_lt hc]
    exact forall_ascii (P := fun c => c.isDigit = true → c.toLower = c) (by decide) hc (char_isDigit_of_lt hc h)
  · have hlow : lowerChar c = c := by
      rcases lowerChar_cases hc with e | ⟨r, hr, hfirst, hlast, -⟩
      · exact e
      · have hcheck := List.all_eq_true.1 caseRuns_check r hr
        simp only [Bool.and_eq_true] at hcheck
        rw [isDigit_of_avoidsDigits hcheck.1.2 hfirst hlast] at h
        cases h
    unfold foldCase
    dsimp only
    rw [hlow, if_neg hc]
    cases hlookup : caseVariants.lookup c.toNat with
    | none => rfl
    | some n =>
      obtain ⟨l₁, l₂, hl, -⟩ := List.lookup_eq_some_iff.1 hlookup
      have hmem : (c.toNat, n) ∈ caseVariants := by
        rw [hl]
        exact List.mem_append_right _ List.mem_cons_self
      have hcheck := List.all_eq_true.1 caseVariants_check _ hmem
      simp only [Bool.and_eq_true] at hcheck
      rw [isDigit_of_avoidsDigits hcheck.1.1 (Nat.le_refl _) (Nat.le_refl _)] at h
      cases h

theorem isAlpha_foldCase_of_isDigit {c : Char} (h : isDigit c = true) : (foldCase c).isAlpha = false := by
  rw [foldCase_of_isDigit h, ← Bool.not_eq_true]
  intro halpha
  rw [isDigit_of_isAlpha halpha] at h
  cases h

/-- Only the character itself is folded to a character of ASCII that is no letter. -/
theorem foldCase_eq_of_not_isAlpha {c : Char} (hlt : (foldCase c).toNat < 0x80) (h : (foldCase c).isAlpha = false) :
    foldCase c = c := by
  by_cases hc : c.toNat < 0x80
  · rw [foldCase_of_lt hc] at h ⊢
    exact forall_ascii (P := fun c => c.toLower.isAlpha = false → c.toLower = c) (by decide) hc h
  · rcases foldCase_cases c with e | ⟨-, hge | halpha⟩
    · rw [e] at hlt h ⊢
      rcases lowerChar_cases hc with e' | ⟨r, hr, hfirst, hlast, hshift⟩
      · exact e'
      · have hcheck := List.all_eq_true.1 caseRuns_check r hr
        simp only [CaseRun.keepsLetters, Bool.and_eq_true, Bool.or_eq_true, beq_iff_eq, decide_eq_true_eq] at hcheck
        obtain ⟨⟨⟨-, hkeeps⟩, -⟩, -⟩ := hcheck
        rcases hkeeps with hge | ⟨hone, halpha⟩
        · omega
        · have hn : (r.first + r.shift : Int).toNat = (lowerChar c).toNat := by omega
          rw [hn, Char.ofNat_toNat, h] at halpha
          cases halpha
    · omega
    · rw [h] at halpha
      cases halpha

/-! ### Agreement up to letter case -/

/-- What matching sees of a character: its representative if letter case is ignored, otherwise the character itself. -/
def seenAs (anyCase : Bool) (c : Char) : Char :=
  if anyCase then foldCase c else c

variable {anyCase : Bool} {a b : Char}

theorem sameUpToCase_eq (anyCase : Bool) (a b : Char) :
    sameUpToCase anyCase a b = (seenAs anyCase a == seenAs anyCase b) := by
  cases anyCase <;> rfl

theorem seenAs_of_isDigit {c : Char} (h : isDigit c = true) : seenAs anyCase c = c := by
  cases anyCase with
  | false => rfl
  | true => exact foldCase_of_isDigit h

theorem isDigit_seenAs (anyCase : Bool) (c : Char) : isDigit (seenAs anyCase c) = isDigit c := by
  cases anyCase with
  | false => rfl
  | true =>
    rw [Bool.eq_iff_iff]
    refine ⟨isDigit_of_isDigit_foldCase, fun h => ?_⟩
    rwa [seenAs_of_isDigit h]

theorem eq_of_sameUpToCase (ha : a.toNat < 0x80) (hno : a.isAlpha = false) (h : sameUpToCase anyCase a b = true) :
    b = a := by
  cases anyCase with
  | false => exact (beq_iff_eq.1 h).symm
  | true =>
    have hfold : foldCase a = foldCase b := beq_iff_eq.1 h
    rw [foldCase_eq_self ha hno] at hfold
    rw [← foldCase_eq_of_not_isAlpha (c := b) (by rw [← hfold]; exact ha) (by rw [← hfold]; exact hno), hfold]

theorem isAlpha_foldCase_of_sameUpToCase (ha : a.isAlpha = true) (h : sameUpToCase anyCase a b = true) :
    (foldCase b).isAlpha = true := by
  cases anyCase with
  | false =>
    rw [← beq_iff_eq.1 (show (a == b) = true from h)]
    exact isAlpha_foldCase ha
  | true =>
    rw [← beq_iff_eq.1 (show (foldCase a == foldCase b) = true from h)]
    exact isAlpha_foldCase ha

theorem isDigit_of_accepts {c : Char} (h : CharClass.digit.accepts anyCase c = true) : isDigit c = true :=
  (isDigit_seenAs anyCase c).symm.trans h

theorem accepts_of_isDigit {c : Char} (h : isDigit c = true) : CharClass.digit.accepts anyCase c = true :=
  (isDigit_seenAs anyCase c).trans h

theorem accepts_digit {c : Char} (h : c.isDigit = true) : CharClass.digit.accepts anyCase c = true :=
  accepts_of_isDigit (isDigit_of_char h)

theorem eq_of_accepts_sign {c : Char} (h : CharClass.sign.accepts anyCase c = true) : c = '+' ∨ c = '-' := by
  have hsign : ∀ d : Char, CharClass.sign.holds d = true → d = '+' ∨ d = '-' := by
    intro d hd
    simpa [CharClass.holds] using hd
  cases anyCase with
  | false => exact hsign c h
  | true =>
    have hfold := hsign (foldCase c) h
    have hself : foldCase c = c := by
      refine foldCase_eq_of_not_isAlpha ?_ ?_
      · rcases hfold with e | e <;> rw [e] <;> decide
      · rcases hfold with e | e <;> rw [e] <;> decide
    rwa [hself] at hfold

/-! ### Lower-case forms -/

/-- The characters outside ASCII that agree with an ASCII letter up to letter case, but do not have its lower-case form: the
dotted capital I, the dotless i and the long s. -/
def blurredLetters : List Char := ['İ', 'ı', 'ſ']

private theorem caseRuns_check_blurred :
    (caseRuns.all fun r => blurredLetters.all fun b =>
      r.last + r.shift < b.toNat || b.toNat < r.first + r.shift) = true := by
  decide

private theorem caseVariants_check_blurred :
    (caseVariants.all fun v => 0x80 ≤ (Char.ofNat v.2).toNat || blurredLetters.any (·.toNat == v.1)) = true := by
  decide

/-- No other character has a blurred letter as its lower-case form. -/
private theorem lowerChar_ne_blurred (hb : b ∉ blurredLetters) : lowerChar b ∉ blurredLetters := by
  intro hmem
  by_cases hlt : b.toNat < 0x80
  · have hlow : lowerChar b = b.toLower := if_pos hlt
    rw [hlow] at hmem
    have hge : (blurredLetters.all fun c => 0x80 ≤ c.toNat) = true := by decide
    have := of_decide_eq_true (List.all_eq_true.1 hge _ hmem)
    have := toLower_lt hlt
    omega
  · rcases lowerChar_cases hlt with e | ⟨r, hr, hfirst, hlast, hshift⟩
    · rw [e] at hmem
      exact hb hmem
    · have := List.all_eq_true.1 (List.all_eq_true.1 caseRuns_check_blurred r hr) _ hmem
      simp only [Bool.or_eq_true, decide_eq_true_eq] at this
      omega

/-- A character that agrees with an ASCII letter has its lower-case form, unless it is a blurred letter. -/
theorem lowerChar_of_sameUpToCase (ha : a.isAlpha = true) (h : sameUpToCase true a b = true)
    (hb : b ∉ blurredLetters) : lowerChar b = lowerChar a := by
  have hlt := lt_of_isAlpha ha
  have hlow : lowerChar a = a.toLower := if_pos hlt
  have hfold : foldCase a = foldCase b := beq_iff_eq.1 h
  rw [foldCase_of_lt hlt] at hfold
  have hascii := toLower_lt hlt
  rw [hfold] at hascii
  rw [hlow, hfold]
  have hblurred := lowerChar_ne_blurred hb
  unfold foldCase at hascii ⊢
  dsimp only at hascii ⊢
  split at hascii
  · rename_i hsmall
    rw [if_pos hsmall]
  · rename_i hbig
    cases hlookup : caseVariants.lookup (lowerChar b).toNat with
    | none =>
      rw [hlookup] at hascii
      exact absurd hascii hbig
    | some n =>
      rw [hlookup] at hascii
      obtain ⟨l₁, l₂, hl, -⟩ := List.lookup_eq_some_iff.1 hlookup
      have hmem : ((lowerChar b).toNat, n) ∈ caseVariants := by
        rw [hl]
        exact List.mem_append_right _ List.mem_cons_self
      have := List.all_eq_true.1 caseVariants_check_blurred _ hmem
      simp only [Bool.or_eq_true, decide_eq_true_eq] at this
      rcases this with hge | hany
      · dsimp only at hascii
        omega
      · obtain ⟨c, hc, he⟩ := List.any_eq_true.1 hany
        rw [beq_iff_eq] at he
        rw [← Char.ofNat_toNat (lowerChar b), ← he, Char.ofNat_toNat] at hblurred
        exact absurd hc hblurred

/-- A text that agrees with one of ASCII letters has its lower-case form, unless it holds a blurred letter. -/
theorem lowerText_of_sameTexts {as bs : List Char} (ha : as.all Char.isAlpha = true) (h : sameTexts true as bs = true)
    (hb : ∀ c ∈ bs, c ∉ blurredLetters) : lowerText bs = lowerText as := by
  have hsingle : ∀ {c : Char}, c ≠ 'İ' →
      (if c.toNat == 0x130 then [Char.ofNat 0x69, Char.ofNat 0x307] else [lowerChar c]) = [lowerChar c] := by
    intro c hc
    rw [if_neg]
    intro he
    rw [beq_iff_eq] at he
    exact hc (by rw [← Char.ofNat_toNat c, he])
  induction as generalizing bs with
  | nil =>
    cases bs with
    | nil => rfl
    | cons b bs => simp [sameTexts] at h
  | cons a as ih =>
    cases bs with
    | nil => simp [sameTexts] at h
    | cons b bs =>
      simp only [sameTexts, Bool.and_eq_true] at h
      simp only [List.all_cons, Bool.and_eq_true] at ha
      have hhead := hb b List.mem_cons_self
      have hdotted : b ≠ 'İ' := by
        rintro rfl
        exact hhead (by decide)
      have hletter : a ≠ 'İ' := by
        rintro rfl
        exact absurd ha.1 (by decide)
      have htail := ih ha.2 h.2 fun c hc => hb c (List.mem_cons_of_mem _ hc)
      unfold lowerText at htail ⊢
      rw [List.flatMap_cons, List.flatMap_cons, htail, hsingle hdotted, hsingle hletter,
        lowerChar_of_sameUpToCase ha.1 h.1 hhead]

/-! ### Upper-case forms -/

/-- The character is its own upper-case form, being an ASCII character that is no small letter, or a digit of any script. -/
def IsUpper (c : Char) : Prop :=
  c.toNat < 0x80 ∧ c.toUpper = c ∨ isDigit c = true

instance (c : Char) : Decidable (IsUpper c) :=
  inferInstanceAs (Decidable (_ ∨ _))

private theorem asciiCapitals_check : ∀ entry ∈ asciiCapitals, isDigit (Char.ofNat entry.1) = false := by
  decide +kernel

theorem upperText_eq_self {cs : List Char} (h : ∀ c ∈ cs, IsUpper c) : upperText cs = cs := by
  unfold upperText
  induction cs with
  | nil => rfl
  | cons c cs ih =>
    rw [List.flatMap_cons, ih fun d hd => h d (List.mem_cons_of_mem _ hd)]
    have hc := h c List.mem_cons_self
    by_cases hlt : c.toNat < 0x80
    · have hupper : c.toUpper = c := by
        rcases hc with ⟨-, hupper⟩ | hdigit
        · exact hupper
        · exact forall_ascii (P := fun c => c.isDigit = true → c.toUpper = c) (by decide) hlt
            (char_isDigit_of_lt hlt hdigit)
      simp [hlt, hupper]
    · have hdigit : isDigit c = true := hc.resolve_left fun h => hlt h.1
      have hnone : asciiCapitals.lookup c.toNat = none := by
        rw [List.lookup_eq_none_iff]
        intro entry hentry
        simp only [bne_iff_ne, ne_eq]
        intro he
        have := asciiCapitals_check entry hentry
        rw [← he, Char.ofNat_toNat, hdigit] at this
        cases this
      simp [hlt, hnone]

/-! ### Small letters -/

private theorem toLower_of_not_lt {c : Char} (hc : ¬c.toNat < 0x80) : c.toLower = c := by
  refine dif_neg fun hcapital => hc ?_
  have hle : c.val.toNat ≤ 90 := UInt32.le_iff_toNat_le.1 hcapital.2
  have e : c.toNat = c.val.toNat := rfl
  omega

/-- What all characters of ASCII have in common with their small letters, all characters have in common with them. -/
private theorem apply_toLower {α : Type} {F : Char → α}
    (h : ∀ n < 128, F (Char.ofNat n).toLower = F (Char.ofNat n)) (c : Char) : F c.toLower = F c := by
  by_cases hc : c.toNat < 0x80
  · exact forall_ascii (P := fun c => F c.toLower = F c) h hc
  · rw [toLower_of_not_lt hc]

theorem foldCase_toLower (c : Char) : foldCase c.toLower = foldCase c :=
  apply_toLower (by decide) c

private theorem digitValue?_toLower (c : Char) : digitValue? c.toLower = digitValue? c := by
  have hnone : ∀ {d : Char}, d.isAlpha = true → digitValue? d = none := by
    intro d h
    have hno := isDigit_of_isAlpha h
    rwa [isDigit, Option.isSome_eq_false_iff, Option.isNone_iff_eq_none] at hno
  by_cases hc : c.toNat < 0x80
  · have hcases : c.toLower = c ∨ c.isAlpha = true ∧ c.toLower.isAlpha = true :=
      forall_ascii (P := fun c => c.toLower = c ∨ c.isAlpha = true ∧ c.toLower.isAlpha = true) (by decide) hc
    rcases hcases with e | ⟨h, h'⟩
    · rw [e]
    · rw [hnone h, hnone h']
  · rw [toLower_of_not_lt hc]

theorem numeralValue_map_toLower (cs : List Char) : numeralValue (cs.map Char.toLower) = numeralValue cs := by
  unfold numeralValue
  simp only [List.foldl_map, digitValue?_toLower]

theorem lowerText_map_toLower (cs : List Char) : lowerText (cs.map Char.toLower) = lowerText cs := by
  have hcons : ∀ c cs, lowerText (c :: cs) = lowerText [c] ++ lowerText cs := fun c cs => by simp [lowerText]
  induction cs with
  | nil => rfl
  | cons c cs ih =>
    rw [List.map_cons, hcons, hcons c, ih, apply_toLower (F := fun c => lowerText [c]) (by decide)]

theorem upperText_map_toLower (cs : List Char) : upperText (cs.map Char.toLower) = upperText cs := by
  have hcons : ∀ c cs, upperText (c :: cs) = upperText [c] ++ upperText cs := fun c cs => by simp [upperText]
  induction cs with
  | nil => rfl
  | cons c cs ih =>
    rw [List.map_cons, hcons, hcons c, ih, apply_toLower (F := fun c => upperText [c]) (by decide)]

end CivilTime
