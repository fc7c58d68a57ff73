import CivilTime.Proofs.Text.Unique
import CivilTime.Proofs.Zone.OffsetText
import CivilTime.Proofs.Zone.Regions

/-!
# The forms of offsets

A text writes an offset in one of three forms (`WritesOffset`): as a name of zero, as a sign with hours and minutes
(`SignedClock`), or as the same after a name of the zero meridian, where a single digit for the hours will do. No text has
two of these forms, since the number of digits tells the hours from the minutes (`SignedClock.pieces_inj`). So the search
for pieces finds the only ones there are, and a text is read as an offset exactly if it writes it
(`exists_readOffset?_iff`). The name of an offset is again such a text, and it is read as the offset with the same name
(`readOffset?_name`).
-/

namespace CivilTime

/-! ### The forms -/

/-- A sign with hours and minutes in digits of any script: two digits for the hours, or one where hours are `loose`, and two
for the minutes, after a colon or not, or none. -/
structure SignedClock (loose : Bool) where
  sign : Char
  hours : List Char
  colon : List Char
  minutes : List Char
  isSign : sign = '+' ∨ sign = '-'
  digits : ∀ c ∈ hours ++ minutes, isDigit c = true
  hourDigits : hours.length = 2 ∨ loose = true ∧ hours.length = 1
  minuteDigits : minutes.length = 2 ∧ colon ∈ [[], [':']] ∨ minutes = [] ∧ colon = []

namespace SignedClock

variable {loose : Bool}

/-- The text of a signed clock. -/
def text (clock : SignedClock loose) : List Char :=
  clock.sign :: (clock.hours ++ (clock.colon ++ clock.minutes))

/-- The seconds that a signed clock counts. -/
def size (clock : SignedClock loose) : Nat :=
  3600 * numeralValue clock.hours + 60 * numeralValue clock.minutes

/-- The offset that a signed clock shows. -/
def offset (clock : SignedClock loose) : Int :=
  if clock.sign = '-' then -clock.size else clock.size

/-- No more than 59 minutes, and no more than 18 hours in all. -/
def InRange (clock : SignedClock loose) : Prop :=
  numeralValue clock.minutes ≤ 59 ∧ clock.size ≤ 64800

instance (clock : SignedClock loose) : Decidable clock.InRange :=
  inferInstanceAs (Decidable (_ ∧ _))

end SignedClock

/-- The texts of offsets: a Z or a name of the zero meridian for zero, a signed clock, and a signed clock with loose hours
after a name of the zero meridian. -/
inductive WritesOffset : List Char → Int → Prop where
  | zero {cs : List Char} : cs ∈ ['Z'] :: meridianNames → WritesOffset cs 0
  | bare (clock : SignedClock false) : clock.InRange → WritesOffset clock.text clock.offset
  | prefixed {name : List Char} (clock : SignedClock true) : name ∈ meridianNames → clock.InRange →
      WritesOffset (name ++ clock.text) clock.offset

/-! ### The pieces of a signed clock -/

namespace SignedClock

variable {loose : Bool} {cs sign hours tail : List Char}

/-- The shapes of the sign, the hours, and the minutes with their colon. -/
def shapes (loose : Bool) : List Shape :=
  [.run .sign 1 (some 1), .run .digit (if loose then 1 else 2) (some 2), .optional minutesShape]

/-- The pieces of the text of a signed clock. -/
def pieces (clock : SignedClock loose) : List (List Char) :=
  [[clock.sign], clock.hours, clock.colon ++ clock.minutes]

private theorem matches_sign_iff : (Shape.run .sign 1 (some 1)).Matches false cs ↔ cs = ['+'] ∨ cs = ['-'] := by
  rw [Shape.matches_run_iff]
  constructor
  · rintro ⟨hall, hleast, hmost⟩
    have hlen : cs.length = 1 := Nat.le_antisymm (hmost 1 rfl) hleast
    obtain ⟨c, rfl⟩ := List.length_eq_one_iff.1 hlen
    rcases eq_of_accepts_sign (hall c List.mem_cons_self) with rfl | rfl
    · exact .inl rfl
    · exact .inr rfl
  · rintro (rfl | rfl) <;> simp [CharClass.accepts, CharClass.holds]

private theorem matches_digits_iff {least most : Nat} : (Shape.run .digit least (some most)).Matches false cs ↔
    (∀ c ∈ cs, isDigit c = true) ∧ least ≤ cs.length ∧ cs.length ≤ most := by
  simp [Shape.matches_run_iff, CharClass.accepts, CharClass.holds]

private theorem matches_minutes_iff : (Shape.optional minutesShape).Matches false cs ↔
    ∃ colon minutes, cs = colon ++ minutes ∧ (∀ c ∈ minutes, isDigit c = true) ∧
      (minutes.length = 2 ∧ colon ∈ [[], [':']] ∨ minutes = [] ∧ colon = []) := by
  simp only [Shape.optional, minutesShape, Shape.matches_either_iff, Shape.matches_seq_iff, Shape.matches_word_iff,
    matches_digits_iff]
  constructor
  · rintro (⟨colon, minutes, rfl, hcolon, hdigits, hlen⟩ | rfl)
    · refine ⟨colon, minutes, rfl, hdigits, .inl ⟨by omega, ?_⟩⟩
      rcases hcolon with rfl | rfl <;> simp
    · exact ⟨[], [], rfl, by simp, .inr ⟨rfl, rfl⟩⟩
  · rintro ⟨colon, minutes, rfl, hdigits, ⟨hlen, hcolon⟩ | ⟨rfl, rfl⟩⟩
    · refine .inl ⟨colon, minutes, rfl, ?_, hdigits, by omega⟩
      simpa [or_comm] using hcolon
    · exact .inr rfl

/-- The pieces of these shapes are those of signed clocks. -/
theorem allMatch_iff {ps : List (List Char)} :
    AllMatch false (shapes loose) ps ↔ ∃ clock : SignedClock loose, ps = clock.pieces := by
  constructor
  · intro h
    obtain ⟨sign, hours, tail, rfl⟩ : ∃ sign hours tail, ps = [sign, hours, tail] := by
      rcases ps with _ | ⟨sign, _ | ⟨hours, _ | ⟨tail, _ | ⟨more, ps⟩⟩⟩⟩ <;> simp [shapes, AllMatch] at h ⊢
    obtain ⟨hsign, hhours, htail, -⟩ := h
    rw [matches_sign_iff] at hsign
    obtain ⟨hdigits, hleast, hmost⟩ := matches_digits_iff.1 hhours
    obtain ⟨colon, minutes, rfl, hdigits', hminutes⟩ := matches_minutes_iff.1 htail
    have hlen : hours.length = 2 ∨ loose = true ∧ hours.length = 1 := by
      cases loose <;> simp at hleast ⊢ <;> omega
    have hall := List.forall_mem_append.2 ⟨hdigits, hdigits'⟩
    rcases hsign with rfl | rfl
    · exact ⟨⟨'+', hours, colon, minutes, .inl rfl, hall, hlen, hminutes⟩, rfl⟩
    · exact ⟨⟨'-', hours, colon, minutes, .inr rfl, hall, hlen, hminutes⟩, rfl⟩
  · rintro ⟨clock, rfl⟩
    obtain ⟨hdigits, hdigits'⟩ := List.forall_mem_append.1 clock.digits
    refine ⟨matches_sign_iff.2 ?_, matches_digits_iff.2 ⟨hdigits, ?_⟩, matches_minutes_iff.2 ?_, trivial⟩
    · rcases clock.isSign with h | h <;> simp [h]
    · rcases clock.hourDigits with h | ⟨rfl, h⟩ <;> simp [h]
      split <;> simp
    · exact ⟨clock.colon, clock.minutes, rfl, hdigits', clock.minuteDigits⟩

theorem sign_mem (clock : SignedClock loose) : '+' ∈ clock.text ∨ '-' ∈ clock.text := by
  rcases clock.isSign with h | h <;> simp [text, h]

theorem flatten_pieces (clock : SignedClock loose) : clock.pieces.flatten = clock.text := by
  simp [pieces, text]

/-- Of the minutes there are no characters, two, or three of which the first is a colon. -/
private theorem tail_cases (clock : SignedClock loose) :
    (clock.colon ++ clock.minutes).length = 0 ∨ (clock.colon ++ clock.minutes).length = 2 ∨
      (clock.colon ++ clock.minutes).length = 3 ∧ clock.colon = [':'] := by
  rcases clock.minuteDigits with ⟨hminutes, hcolon⟩ | ⟨hminutes, hcolon⟩
  · simp only [List.mem_cons, List.not_mem_nil, or_false] at hcolon
    rcases hcolon with hcolon | hcolon <;> simp [hcolon, hminutes]
  · simp [hcolon, hminutes]

/-- Where one reading of a text has a single digit for the hours, another one does not have two: the second would be the colon. -/
private theorem length_hours_le {clock other : SignedClock loose} (h : clock.text = other.text) :
    other.hours.length ≤ clock.hours.length := by
  simp only [text, List.cons.injEq] at h
  obtain ⟨-, h⟩ := h
  have hlen := congrArg List.length h
  rw [List.length_append, @List.length_append _ other.hours] at hlen
  apply Nat.le_of_not_lt
  intro hlt
  have hclock := clock.tail_cases
  have hother := other.tail_cases
  have hone : clock.hours.length = 1 := by
    rcases clock.hourDigits with h | ⟨-, h⟩ <;> rcases other.hourDigits with h' | ⟨-, h'⟩ <;> omega
  have htwo : other.hours.length = 2 := by
    rcases other.hourDigits with h | ⟨-, h⟩ <;> omega
  have hcolon : clock.colon = [':'] := by
    rcases hclock with hclock | hclock | ⟨-, hcolon⟩
    · omega
    · omega
    · exact hcolon
  obtain ⟨a, ha⟩ := List.length_eq_one_iff.1 hone
  obtain ⟨b, digits, hb⟩ := List.exists_cons_of_length_eq_add_one htwo
  obtain ⟨c, rfl⟩ : ∃ c, digits = [c] := by
    apply List.length_eq_one_iff.1
    simpa [hb] using htwo
  rw [ha, hb, hcolon] at h
  simp only [List.cons_append, List.nil_append, List.cons.injEq] at h
  have hdigit := other.digits c (by simp [hb])
  rw [← h.2.1] at hdigit
  revert hdigit
  decide +kernel

/-- A text has the pieces of one signed clock only. -/
theorem pieces_inj {clock other : SignedClock loose} (h : clock.text = other.text) : clock.pieces = other.pieces := by
  have hlen := Nat.le_antisymm (length_hours_le h.symm) (length_hours_le h)
  simp only [text, List.cons.injEq] at h
  obtain ⟨hsign, h⟩ := h
  obtain ⟨hhours, htail⟩ := List.append_inj h hlen
  rw [pieces, pieces, hsign, hhours, htail]

/-- The digits of a signed clock in range make up its offset. -/
theorem offsetOfDigits?_eq (clock : SignedClock loose) :
    offsetOfDigits? [clock.sign] clock.hours (clock.colon ++ clock.minutes) =
      if clock.InRange then some clock.offset else none := by
  have hminutes : (clock.colon ++ clock.minutes).filter (· != ':') = clock.minutes := by
    have hcolon : clock.colon.filter (· != ':') = [] := by
      rcases clock.minuteDigits with ⟨-, h⟩ | ⟨-, h⟩
      · revert h
        generalize clock.colon = colon
        revert colon
        decide
      · rw [h]
        rfl
    rw [List.filter_append, hcolon, List.nil_append, List.filter_eq_self]
    intro c hc
    have hdigit := clock.digits c (List.mem_append_right _ hc)
    simp only [bne_iff_ne, ne_eq]
    rintro rfl
    revert hdigit
    decide +kernel
  unfold offsetOfDigits?
  rw [hminutes]
  simp only [List.cons.injEq, and_true]
  by_cases h : clock.InRange
  · rw [if_pos h, if_neg]
    · rfl
    · simpa [InRange, size, and_comm] using h
  · rw [if_neg h, if_pos]
    simp only [InRange, size, Decidable.not_and_iff_or_not, Nat.not_le] at h
    simpa [or_comm] using h

/-- The search finds the pieces of a signed clock in its text. -/
theorem cutAll_shapes_iff {ps : List (List Char)} : cutAll false List.isEmpty (shapes loose) cs = some ps ↔
    ∃ clock : SignedClock loose, ps = clock.pieces ∧ cs = clock.text := by
  rw [cutAll_isEmpty_eq_some_iff, allMatch_iff]
  · constructor
    · rintro ⟨⟨clock, rfl⟩, rfl⟩
      exact ⟨clock, rfl, clock.flatten_pieces⟩
    · rintro ⟨clock, rfl, rfl⟩
      exact ⟨⟨clock, rfl⟩, clock.flatten_pieces⟩
  · simp only [allMatch_iff]
    rintro ps qs ⟨clock, rfl⟩ ⟨other, rfl⟩ hclock hother
    rw [flatten_pieces] at hclock hother
    exact pieces_inj (hclock.trans hother.symm)

/-- The search finds the pieces of a signed clock after the name of the zero meridian. -/
theorem cutAll_words_shapes_iff {ps : List (List Char)} :
    cutAll false List.isEmpty (.words meridianNames :: shapes loose) cs = some ps ↔
      ∃ name ∈ meridianNames, ∃ clock : SignedClock loose, ps = name :: clock.pieces ∧ cs = name ++ clock.text := by
  have hall : ∀ ps, AllMatch false (.words meridianNames :: shapes loose) ps ↔
      ∃ name ∈ meridianNames, ∃ clock : SignedClock loose, ps = name :: clock.pieces := by
    intro ps
    cases ps with
    | nil => simp [AllMatch]
    | cons name ps =>
      simp only [AllMatch, allMatch_iff, Shape.matches_words_iff, sameTexts_false, exists_eq_right, List.cons.injEq]
      constructor
      · rintro ⟨hname, clock, rfl⟩
        exact ⟨name, hname, clock, rfl, rfl⟩
      · rintro ⟨_, hname, clock, rfl, rfl⟩
        exact ⟨hname, clock, rfl⟩
  have hflatten : ∀ (name : List Char) (clock : SignedClock loose), (name :: clock.pieces).flatten = name ++ clock.text :=
    fun name clock => by rw [List.flatten_cons, flatten_pieces]
  rw [cutAll_isEmpty_eq_some_iff, hall]
  · constructor
    · rintro ⟨⟨name, hname, clock, rfl⟩, rfl⟩
      exact ⟨name, hname, clock, rfl, hflatten name clock⟩
    · rintro ⟨name, hname, clock, rfl, rfl⟩
      exact ⟨⟨name, hname, clock, rfl⟩, hflatten name clock⟩
  · simp only [hall]
    rintro ps qs ⟨name, hname, clock, rfl⟩ ⟨name', hname', other, rfl⟩ hclock hother
    rw [hflatten] at hclock hother
    -- the names consist of letters, and the signs are none
    have hletters : ∀ name ∈ meridianNames, name.all Char.isAlpha = true := by decide
    have hsign : ∀ clock : SignedClock loose, ∀ c ∈ clock.text.head?, ¬c.isAlpha = true := by
      intro clock c hc
      obtain rfl : clock.sign = c := Option.some.inj hc
      rcases clock.isSign with h | h <;> rw [h] <;> decide
    obtain ⟨rfl, htext⟩ := append_inj_of_runs (List.all_eq_true.1 (hletters name hname))
      (List.all_eq_true.1 (hletters name' hname')) (hsign clock) (hsign other) (hclock.trans hother.symm)
    rw [pieces_inj htext]

end SignedClock

/-! ### Reading the forms -/

theorem readBareOffset?_eq_some_iff {cs : List Char} {o : NamedOffset} : readBareOffset? cs = some o ↔
    ∃ clock : SignedClock false, cs = clock.text ∧ clock.InRange ∧ o = ⟨clock.offset, offsetId clock.offset⟩ := by
  have hcut := @SignedClock.cutAll_shapes_iff false cs
  unfold readBareOffset?
  change ∀ {ps}, cutAll false List.isEmpty [.run .sign 1 (some 1), .run .digit 2 (some 2), .optional minutesShape] cs =
    some ps ↔ _ at hcut
  constructor
  · intro h
    split at h
    · rename_i sign hours tail hps
      obtain ⟨clock, hpieces, htext⟩ := hcut.1 hps
      cases hpieces
      rw [clock.offsetOfDigits?_eq] at h
      split at h
      · rename_i hrange
        exact ⟨clock, htext, hrange, (Option.some.inj h).symm⟩
      · cases h
    · cases h
  · rintro ⟨clock, htext, hrange, rfl⟩
    rw [hcut.2 ⟨clock, rfl, htext⟩]
    simp [SignedClock.pieces, clock.offsetOfDigits?_eq, hrange]

theorem readPrefixedOffset?_eq_some_iff {cs : List Char} {r : Option NamedOffset} : readPrefixedOffset? cs = some r ↔
    ∃ name ∈ meridianNames, ∃ clock : SignedClock true, cs = name ++ clock.text ∧
      r = if clock.InRange then some ⟨clock.offset, gmtOffset true clock.offset⟩ else none := by
  have hcut := @SignedClock.cutAll_words_shapes_iff true cs
  have hmap : ∀ clock : SignedClock true,
      (offsetOfDigits? [clock.sign] clock.hours (clock.colon ++ clock.minutes)).map
          (fun offset => (⟨offset, gmtOffset true offset⟩ : NamedOffset)) =
        if clock.InRange then some ⟨clock.offset, gmtOffset true clock.offset⟩ else none := by
    intro clock
    rw [clock.offsetOfDigits?_eq]
    split <;> rfl
  unfold readPrefixedOffset?
  change ∀ {ps}, cutAll false List.isEmpty
    [.words meridianNames, .run .sign 1 (some 1), .run .digit 1 (some 2), .optional minutesShape] cs = some ps ↔ _ at hcut
  constructor
  · intro h
    split at h
    · rename_i name sign hours tail hps
      obtain ⟨name, hname, clock, hpieces, htext⟩ := hcut.1 hps
      cases hpieces
      rw [hmap] at h
      exact ⟨name, hname, clock, htext, (Option.some.inj h).symm⟩
    · cases h
  · rintro ⟨name, hname, clock, htext, rfl⟩
    rw [hcut.2 ⟨name, hname, clock, rfl, htext⟩]
    simp only [SignedClock.pieces]
    rw [hmap]

/-- A text that holds a sign is no name of zero. -/
private theorem readOffset?_of_sign_mem {text : String} (h : '+' ∈ text.toList ∨ '-' ∈ text.toList) :
    readOffset? text = (readPrefixedOffset? text.toList).getD (readBareOffset? text.toList) := by
  have hne : ∀ name ∈ ["Z", "GMT", "UTC", "UT"], text ≠ name := by
    intro name hname htext
    have hno : ∀ name ∈ ["Z", "GMT", "UTC", "UT"], ¬('+' ∈ name.toList ∨ '-' ∈ name.toList) := by decide
    exact hno name hname (htext ▸ h)
  have hUTC := hne "UTC" (by decide)
  have hUT := hne "UT" (by decide)
  rw [readOffset?, if_neg (hne "Z" (by decide)), if_neg (hne "GMT" (by decide)), if_neg]
  simp [hUTC, hUT]

/-- No name of the zero meridian stands in front of a sign. -/
private theorem readPrefixedOffset?_text {loose : Bool} (clock : SignedClock loose) :
    readPrefixedOffset? clock.text = none := by
  rw [Option.eq_none_iff_forall_ne_some]
  intro r hr
  obtain ⟨name, hname, other, htext, -⟩ := readPrefixedOffset?_eq_some_iff.1 hr
  have hfirst : ∀ name ∈ meridianNames, name.head? ≠ none ∧ name.head? ≠ some '+' ∧ name.head? ≠ some '-' := by decide
  obtain ⟨hne, hplus, hminus⟩ := hfirst name hname
  cases name with
  | nil => exact hne rfl
  | cons c name =>
    obtain rfl : clock.sign = c := (List.cons.inj htext).1
    rcases clock.isSign with h | h
    · exact hplus (by rw [h]; rfl)
    · exact hminus (by rw [h]; rfl)

/-- What is read as an offset writes it. -/
private theorem writesOffset_of_readOffset? {text : String} {o : NamedOffset} (h : readOffset? text = some o) :
    WritesOffset text.toList o.offset := by
  unfold readOffset? at h
  split at h
  · rename_i htext
    cases h
    exact .zero (by rw [htext]; decide)
  · split at h
    · rename_i htext
      cases h
      exact .zero (by rw [htext]; decide)
    · split at h
      · rename_i htext
        simp only [Bool.or_eq_true, decide_eq_true_eq] at htext
        cases h
        rcases htext with htext | htext
        · exact .zero (by rw [htext]; decide)
        · exact .zero (by rw [htext]; decide)
      · cases hprefixed : readPrefixedOffset? text.toList with
        | some r =>
          obtain ⟨name, hname, clock, htext, rfl⟩ := readPrefixedOffset?_eq_some_iff.1 hprefixed
          rw [hprefixed, Option.getD_some] at h
          split at h
          · rename_i hrange
            cases h
            rw [htext]
            exact .prefixed clock hname hrange
          · cases h
        | none =>
          rw [hprefixed, Option.getD_none] at h
          obtain ⟨clock, htext, hrange, rfl⟩ := readBareOffset?_eq_some_iff.1 h
          rw [htext]
          exact .bare clock hrange

/-- A text that writes an offset is read as it. -/
private theorem exists_readOffset?_of_writesOffset {cs : List Char} {offset : Int} (h : WritesOffset cs offset) :
    ∃ name, readOffset? (String.ofList cs) = some ⟨offset, name⟩ := by
  cases h with
  | zero hmem =>
    have hread : ∀ cs ∈ ['Z'] :: meridianNames, (readOffset? (String.ofList cs)).map (·.offset) = some 0 := by
      decide +kernel
    obtain ⟨o, ho, hzero⟩ := Option.map_eq_some_iff.1 (hread cs hmem)
    exact ⟨o.name, by rw [ho, ← hzero]⟩
  | bare clock hrange =>
    rw [readOffset?_of_sign_mem (by rw [String.toList_ofList]; exact clock.sign_mem), String.toList_ofList,
      readPrefixedOffset?_text, Option.getD_none]
    exact ⟨_, readBareOffset?_eq_some_iff.2 ⟨clock, rfl, hrange, rfl⟩⟩
  | @prefixed name clock hname hrange =>
    have hsign := clock.sign_mem.imp (List.mem_append_right name) (List.mem_append_right name)
    have hprefixed := readPrefixedOffset?_eq_some_iff.2 ⟨name, hname, clock, rfl, rfl⟩
    rw [readOffset?_of_sign_mem (by rwa [String.toList_ofList]), String.toList_ofList, hprefixed, if_pos hrange]
    exact ⟨_, rfl⟩

/-- A text is read as an offset exactly if it writes it. -/
theorem exists_readOffset?_iff {text : String} {offset : Int} :
    (∃ name, readOffset? text = some ⟨offset, name⟩) ↔ WritesOffset text.toList offset := by
  constructor
  · rintro ⟨name, h⟩
    exact writesOffset_of_readOffset? h
  · intro h
    have hread := exists_readOffset?_of_writesOffset h
    rwa [String.ofList_toList] at hread

/-! ### The names of offsets -/

variable {text : String} {o : NamedOffset}

/-- The form that names an offset of whole minutes is read as the offset, and names it again. -/
theorem readOffset?_offsetId {offset : Int} (h : offset.natAbs ≤ 64800) (hwhole : offset % 60 = 0) :
    IsCapital (offsetId offset).toList ∧ readOffset? (offsetId offset) = some ⟨offset, offsetId offset⟩ := by
  by_cases hzero : offset = 0
  · subst hzero
    decide +kernel
  · have hread := readOffset?_isoOffset h true
    have hid : offsetId offset = isoOffset true offset := if_neg hzero
    rw [Int.mul_ediv_cancel' (Int.dvd_of_emod_eq_zero hwhole)] at hread
    rw [hid] at hread ⊢
    exact ⟨isCapital_isoOffset true offset, hread⟩

/-- An offset that is read goes by a text in capitals that is read as the same offset with the same name. -/
theorem readOffset?_name (h : readOffset? text = some o) : IsCapital o.name.toList ∧ readOffset? o.name = some o := by
  rcases readOffset?_cases h with hzero | ⟨⟨hle, hwhole⟩, hname⟩
  · have hall : ∀ o ∈ [(⟨0, "Z"⟩ : NamedOffset), ⟨0, "GMT"⟩, ⟨0, "UTC"⟩],
        IsCapital o.name.toList ∧ readOffset? o.name = some o := by
      decide +kernel
    exact hall o hzero
  · rcases hname with hname | hname
    · have hread := readOffset?_gmtOffset hle true
      rw [Int.mul_ediv_cancel' (Int.dvd_of_emod_eq_zero hwhole), ← hname] at hread
      exact ⟨hname ▸ isCapital_gmtOffset true o.offset, hread⟩
    · have hread := readOffset?_offsetId hle hwhole
      rw [← hname] at hread
      exact hread

/-- The texts that are read as offsets are exactly those that write them, and every offset that is read goes by an ASCII
text that is read as the same offset with the same name. -/
theorem readOffset?_forms (text : String) :
    (∀ offset, (∃ name, readOffset? text = some ⟨offset, name⟩) ↔ WritesOffset text.toList offset) ∧
    ∀ o, readOffset? text = some o → (∀ c ∈ o.name.toList, c.toNat < 0x80) ∧ readOffset? o.name = some o := by
  refine ⟨fun offset => exists_readOffset?_iff, ?_⟩
  intro o h
  obtain ⟨hcapital, hread⟩ := readOffset?_name h
  exact ⟨fun c hc => (hcapital c hc).1, hread⟩

/-- Three digits after GMT are an hour and minutes. -/
theorem readOffset?_forms_gmt :
    WritesOffset "GMT+130".toList 5400 ∧ readOffset? "GMT+130" = some ⟨5400, "GMT+01:30"⟩ ∧
      readOffset? "GMT+01:30" = some ⟨5400, "GMT+01:30"⟩ := by
  have h : readOffset? "GMT+130" = some ⟨5400, "GMT+01:30"⟩ := by decide +kernel
  obtain ⟨hforms, hnames⟩ := readOffset?_forms "GMT+130"
  exact ⟨(hforms 5400).1 ⟨_, h⟩, h, (hnames _ h).2⟩

end CivilTime
