import CivilTime.Proofs.Pattern.Lenience

/-!
# Patterns of a single number

A pattern may consist of one field in digits (`DatePattern.single`). It pads the number of a moment to the width of the field, but
reads as many digits as its letter admits, and those follow the width for years and fractions of a second only
(`Letter.le_maxDigits_iff`). So these fields read what they write at every width, and the other ones at widths one and two. From
width three on there are more digits than the other fields read: read exactly the text is refused, and leniently its first two
digits are read, and with them the number without its last digits (`DatePattern.read_write_single`).
-/

namespace CivilTime

variable {letter : Letter} {width : Nat} {names : Names} {lenient : Bool} {today : Date} {text : String}
  {db : Database} {m : Moment}

/-- The digits that a field admits are at least as many as its width, where they follow the width or the width is small. -/
theorem Letter.le_maxDigits_iff :
    width ≤ letter.maxDigits width ↔ letter ∈ [.year, .extendedYear, .millisecond] ∨ width ≤ 2 := by
  cases letter with
  | year | extendedYear | millisecond => exact ⟨fun _ => .inl (by decide), fun _ => Nat.le_max_left _ _⟩
  | _ => simp [maxDigits]

/-- The reading of a text that is one number. -/
def Reading.ofNumber (lenient : Bool) (today : Date) (letter : Letter) (width : Nat) (raw : List Char) (value : Nat) : Reading :=
  (OpenReading.empty.takeNumber lenient today letter width raw value).settle lenient

namespace DatePattern

/-- The pattern of one field alone. -/
def single (letter : Letter) (width : Nat) (names : Names) (lenient : Bool) : DatePattern :=
  ⟨String.ofList (List.replicate width letter.char), [.field letter width], names, lenient⟩

theorem of_single (h : 0 < width) (letter : Letter) (names : Names) (lenient : Bool) :
    DatePattern.of (String.ofList (List.replicate width letter.char)) names lenient = .ok (single letter width names lenient) := by
  have hspelled : spelling [.field letter width] = List.replicate width letter.char := List.append_nil _
  have htokens : CivilTime.tokens (List.replicate width letter.char) = .ok [.field letter width] := by
    rw [← hspelled]
    exact tokens_spelling ⟨h, fun _ hnext => (by cases hnext), trivial⟩
  unfold DatePattern.of
  rw [String.toList_ofList, htokens]
  rfl

theorem write_single (h : letter.isNumeric width = true) (names : Names) (lenient : Bool) (m : Moment) :
    (single letter width names lenient).write m = padded width (letter.number width m) := by
  rw [← String.toList_inj, toList_write]
  change (writeField names letter width m).toList ++ [] = _
  rw [List.append_nil, writeField_number h]

theorem pieces?_single (h : letter.isNumeric width = true) (names : Names) (lenient : Bool) (cs : List Char) :
    (single letter width names lenient).pieces? cs =
      cutAll lenient (fun rest => lenient || rest.isEmpty) [numberShape letter width false] cs := by
  have hshape : fieldShape names lenient letter width false = numberShape letter width false := fieldShape_of_isNumeric h _ _
  rw [← hshape]
  rfl

/-- The field takes in the digits that it prefers, if it may leave the rest. -/
theorem pieces?_single_of_prefers {piece rest : List Char} (h : letter.isNumeric width = true)
    (hprefers : (numberShape letter width false).Prefers lenient piece rest) (hrest : (lenient || rest.isEmpty) = true)
    (names : Names) : (single letter width names lenient).pieces? (piece ++ rest) = some [piece] := by
  obtain ⟨more, hmore⟩ := List.head?_eq_some_iff.1 hprefers
  have hnil : cutAll lenient (fun rest => lenient || rest.isEmpty) [] rest = some [] := by
    rw [cutAll_nil, if_pos hrest]
  rw [pieces?_single h, cutAll_cons, hmore, List.findSome?_cons]
  simp only [hnil, Option.map_some, List.take_left]

/-- The number of the only piece is all that is read. -/
theorem read_single {raw : List Char} {value : Nat} (h : letter.isNumeric width = true)
    (hpieces : (single letter width names lenient).pieces? text.toList = some [raw]) (hlong : raw.length ≤ longestNumber)
    (hvalue : fieldNumber lenient letter raw = .ok value) (today : Date) :
    (single letter width names lenient).read today text db =
      .ok (.ofNumber lenient today letter width raw value) := by
  have htake : (single letter width names lenient).takeField today text db .empty letter width raw =
      .ok (OpenReading.empty.takeNumber lenient today letter width raw value) :=
    takeField_of_takes (.number h hlong hvalue)
  rw [read_of_pieces? hpieces]
  change ((single letter width names lenient).takeField today text db .empty letter width raw >>= _) >>= _ = _
  rw [htake]
  rfl

/-! ### Fields that are wide enough to be read -/

/-- A field that admits as many digits as it is wide takes in all that it writes. -/
private theorem pieces?_write_single (hm : m.time.isSupported = true) (h : letter.isNumeric width = true)
    (hwidth : width ≤ letter.maxDigits width) (names : Names) (lenient : Bool) :
    (single letter width names lenient).pieces? (padded width (letter.number width m)).toList =
      some [(padded width (letter.number width m)).toList] := by
  have hprefers := @prefers_number names letter width m lenient [] hm h (letter.digits_le_maxDigits width) hwidth (by simp)
  rw [writeField_number h] at hprefers
  have hpieces := pieces?_single_of_prefers h hprefers (Bool.or_true lenient) names
  rwa [List.append_nil] at hpieces

/-! ### Fields that are too wide to be read -/

/-- The other fields write as many digits as they are wide, and read two of them. -/
private theorem length_padded_number_of_wide (hm : m.time.isSupported = true) (h : letter.isNumeric width = true)
    (hwidth : letter.maxDigits width < width) :
    letter.maxDigits width = 2 ∧ (padded width (letter.number width m)).toList.length = width := by
  have hle := length_padded_number_le hm letter width
  have hge := le_length_padded width (letter.number width m)
  have hdigits := letter.digits_le_maxDigits width
  refine ⟨?_, by omega⟩
  cases letter with
  | year | extendedYear | millisecond =>
    simp only [Letter.maxDigits] at hwidth
    omega
  | _ => rfl

/-- Exact reading refuses a text that is longer than what its only field admits. -/
private theorem pieces?_eq_none_of_wide (h : letter.isNumeric width = true) (names : Names) {cs : List Char}
    (hlen : letter.maxDigits width < cs.length) : (single letter width names false).pieces? cs = none := by
  rw [pieces?_single h]
  cases hcut : cutAll false (fun rest => false || rest.isEmpty) [numberShape letter width false] cs with
  | none => rfl
  | some pieces =>
    obtain ⟨hmatch, rest, rfl, hrest⟩ := cutAll_sound hcut
    obtain rfl := List.isEmpty_iff.1 hrest
    cases pieces with
    | nil => exact absurd hmatch id
    | cons piece pieces =>
      cases pieces with
      | nil =>
        have hle := (matches_numberShape_iff.1 hmatch.1).2
        simp only [Bool.false_eq_true, if_false] at hle
        simp only [List.flatten_cons, List.flatten_nil, List.append_nil] at hlen
        omega
      | cons next pieces => exact absurd hmatch.2 id

/-- Lenient reading takes in as many digits as the field admits. -/
private theorem pieces?_take_of_wide (h : letter.isNumeric width = true) (names : Names) {cs : List Char}
    (hdigits : ∀ c ∈ cs, c.isDigit = true) (hpos : 0 < letter.maxDigits width) (hlen : letter.maxDigits width < cs.length) :
    (single letter width names true).pieces? cs = some [cs.take (letter.maxDigits width)] := by
  have htake : (cs.take (letter.maxDigits width)).length = letter.maxDigits width := by
    rw [List.length_take]
    omega
  have hprefers : (numberShape letter width false).Prefers true (cs.take (letter.maxDigits width))
      (cs.drop (letter.maxDigits width)) := by
    refine Shape.prefers_run (fun c hc => accepts_digit (hdigits c (List.mem_of_mem_take hc))) (by omega) ?_ (.inl ?_)
    · intro n hn
      cases hn
      omega
    · rw [htake]
  have hpieces := pieces?_single_of_prefers h hprefers rfl names
  rwa [List.take_append_drop] at hpieces

/-! ### Reading what is written -/

/-- A field in digits reads what it writes for a moment, exactly and leniently, if it stands for years or fractions of a second or
is not wider than two. Otherwise exact reading refuses the text, and lenient reading takes in its first two digits only. -/
theorem read_write_single (letter : Letter) (width : Nat) (names : Names) (lenient : Bool) (m : Moment) (today : Date)
    (h : letter.isNumeric width = true) (hpos : 1 ≤ width) (hlong : width ≤ longestNumber)
    (hm : m.time.isSupported = true) :
    ∃ p, DatePattern.of (String.ofList (List.replicate width letter.char)) names lenient = .ok p ∧
      if letter ∈ [.year, .extendedYear, .millisecond] ∨ width ≤ 2 then
        p.pieces? (p.write m).toList = some [(p.write m).toList] ∧
          p.read today (p.write m) db =
            .ok (.ofNumber lenient today letter width (p.write m).toList (letter.number width m))
      else if lenient then
        p.pieces? (p.write m).toList = some [(p.write m).toList.take 2] ∧ (p.write m).toList.length = width ∧
          p.read today (p.write m) db =
            .ok (.ofNumber lenient today letter width ((p.write m).toList.take 2) (letter.number width m / Nat.pow 10 (width - 2)))
      else
        p.read today (p.write m) db = .error (.malformedDate (p.write m) p.text .form) := by
  refine ⟨_, of_single hpos letter names lenient, ?_⟩
  rw [write_single h]
  by_cases hwidth : width ≤ letter.maxDigits width
  · rw [if_pos (Letter.le_maxDigits_iff.1 hwidth)]
    have hpieces := pieces?_write_single hm h hwidth names lenient
    have hle := length_padded_number_le hm letter width
    have hdigits := (letter.digits_bounds width).2
    refine ⟨hpieces, read_single h hpieces ?_ (fieldNumber_padded lenient) today⟩
    unfold longestNumber at hlong ⊢
    omega
  · rw [if_neg (mt Letter.le_maxDigits_iff.2 hwidth)]
    obtain ⟨htwo, hlen⟩ := length_padded_number_of_wide hm h (Nat.lt_of_not_le hwidth)
    have hwide : letter.maxDigits width < (padded width (letter.number width m)).toList.length := by omega
    cases lenient with
    | false =>
      rw [if_neg Bool.false_ne_true]
      unfold DatePattern.read
      rw [pieces?_eq_none_of_wide h names hwide]
    | true =>
      have hpieces := pieces?_take_of_wide h names (fun c hc => isDigit_of_mem_padded hc) (by omega) hwide
      rw [htwo] at hpieces
      rw [if_pos rfl]
      refine ⟨hpieces, hlen, read_single h hpieces ?_ ?_ today⟩
      · rw [List.length_take]
        unfold longestNumber
        omega
      · rw [fieldNumber_lenient, numeralValue_take, numeralValue_padded, hlen]

/-- Seven milliseconds are written with five digits and read again. -/
theorem read_write_single_millisecond :
    ∃ p, DatePattern.of "SSSSS" .english false = .ok p ∧ p.write ⟨.utc, ⟨7⟩, false⟩ = "00007" ∧
      p.read ⟨2021, 1, 1⟩ "00007" .listed = .ok { Reading.empty with millisecond := some 7 } := by
  obtain ⟨p, hp, hread⟩ := read_write_single .millisecond 5 .english false ⟨.utc, ⟨7⟩, false⟩ ⟨2021, 1, 1⟩ rfl (by decide)
    (by decide) (by decide)
  obtain rfl := Except.ok.inj (hp.symm.trans (of_single (by decide) .millisecond .english false))
  have hwrite : (single .millisecond 5 .english false).write ⟨.utc, ⟨7⟩, false⟩ = "00007" := by decide +kernel
  rw [if_pos (by decide), hwrite] at hread
  exact ⟨_, hp, hwrite, hread.2⟩

/-- A day of the month in three digits is not read again: exactly not at all, and leniently without its last digit. -/
theorem not_read_write_single :
    ∃ exact lenient, DatePattern.of "ddd" .english false = .ok exact ∧ DatePattern.of "ddd" .english true = .ok lenient ∧
      (LocalTime.of ⟨2021, 1, 5⟩ 0 0 0 0).isSupported = true ∧
      exact.write ⟨.utc, .of ⟨2021, 1, 5⟩ 0 0 0 0, false⟩ = "005" ∧
      exact.read ⟨2021, 1, 1⟩ "005" .listed = .error (.malformedDate "005" "ddd" .form) ∧
      lenient.write ⟨.utc, .of ⟨2021, 1, 5⟩ 0 0 0 0, false⟩ = "005" ∧
      lenient.pieces? "005".toList = some ["00".toList] ∧
      lenient.read ⟨2021, 1, 1⟩ "005" .listed = .ok { Reading.empty with day := some 0 } :=
  ⟨⟨"ddd", [.field .day 3], .english, false⟩, ⟨"ddd", [.field .day 3], .english, true⟩,
    eq_ok_of_toOption (by decide +kernel), eq_ok_of_toOption (by decide +kernel), by decide +kernel, by decide +kernel,
    eq_error_of_failure? (by decide +kernel), by decide +kernel, by decide +kernel, eq_ok_of_toOption (by decide +kernel)⟩

end DatePattern

end CivilTime
