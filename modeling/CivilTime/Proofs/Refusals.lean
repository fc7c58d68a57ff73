import CivilTime.Fields
import CivilTime.Proofs.ReadingZones
import CivilTime.Timestamp

/-!
# Refusals

A text that does not fit its pattern, a pattern with a flaw and a zone that is not known are refused with an error of their
own (`Error.IsRefusal`). Reading a text fails in two other ways only (`isRefusal_of_error`). Leniently a name may be matched
that is not found in its table, if it holds one of the letters whose lower-case form is not that of the letter which they
match (`DatePattern.Blurs`). Exactly a complete date may have a year that does not fit 32 bits. A number is never too long
to be read where the fields are no wider than that, and the system's zone is never asked for.
-/

namespace CivilTime

/-- The errors by which a text, a pattern, a zone or an instant is refused. -/
def Error.IsRefusal : Error → Prop
  | .malformedDate .. | .unknownTimezone _ | .invalidPattern .. | .unsupportedInstant _ | .unsupportedShift .. => True
  | .unlistedName _ | .unconverted _ | .yearOverflow _ | .floatOverflow | .notANumber => False

variable {p : DatePattern} {db : Database} {today : Date} {text : String} {r : OpenReading}
  {letter : Letter} {width : Nat} {raw : List Char} {e : Error}

/-! ### Names -/

/-- A name that is matched has the lower-case form of a name of its table, or letter case is ignored and it holds a blurred
letter. -/
private theorem lowerText_or_blurred {table : List String} (ht : IsLettered table) {name : String} (hname : name ∈ table)
    {lenient : Bool} (h : sameTexts lenient name.toList raw = true) :
    lowerText raw = lowerText name.toList ∨ lenient = true ∧ ∃ c ∈ raw, c ∈ blurredLetters := by
  cases lenient with
  | false =>
    rw [sameTexts_false] at h
    exact .inl (congrArg lowerText h.symm)
  | true =>
    by_cases hb : ∃ c ∈ raw, c ∈ blurredLetters
    · exact .inr ⟨rfl, hb⟩
    · refine .inl (lowerText_of_sameTexts (ht name hname).2 h fun c hc hmem => hb ⟨c, hc, hmem⟩)

/-- A name with the lower-case form of a name of the tables is found. -/
theorem exists_placeOfName {full short : List String} {name : String} (hname : name ∈ full ∨ name ∈ short)
    (h : lowerText raw = lowerText name.toList) : ∃ n, placeOfName raw full short = .ok n := by
  have hfound : ∀ table : List String, name ∈ table → (indexOfName? raw table).isSome = true := by
    intro table hmem
    unfold indexOfName?
    rw [Option.isSome_map, List.findIdx?_isSome, List.any_eq_true]
    exact ⟨name, hmem, by rw [h]; exact beq_self_eq_true _⟩
  have hsome : ((indexOfName? raw full).or (indexOfName? raw short)).isSome = true := by
    rw [Option.isSome_or, Bool.or_eq_true]
    exact hname.imp (hfound full) (hfound short)
  obtain ⟨n, hn⟩ := Option.isSome_iff_exists.1 hsome
  refine ⟨n, ?_⟩
  unfold placeOfName
  rw [hn]

theorem eq_unlistedName_of_placeOfName {full short : List String} (h : placeOfName raw full short = .error e) :
    e = .unlistedName raw := by
  unfold placeOfName at h
  split at h
  · cases h
  · exact (Except.error.inj h).symm

/-! ### Reading -/

/-- Letter case is ignored, and the piece for the name of a month or weekday holds a letter that matches the name's but has
another lower-case form. -/
def DatePattern.Blurs (p : DatePattern) (letter : Letter) (raw : List Char) : Prop :=
  p.lenient = true ∧ letter ∈ [.month, .standaloneMonth, .weekday] ∧ ∃ c ∈ raw, c ∈ blurredLetters

/-- No field of the tokens is wider than the numbers that are read. -/
theorem width_le_longestNumber {ts : List Token}
    (h : (ts.all fun | .field _ width => width ≤ longestNumber | .literal _ => true) = true) :
    ∀ letter width, Token.field letter width ∈ ts → width ≤ longestNumber :=
  fun _ _ hmem => of_decide_eq_true (List.all_eq_true.1 h _ hmem)

/-- A number is not too long to be read if its field is not too wide. -/
theorem length_le_longestNumber (hwidth : width ≤ longestNumber) {anyCase adjacent : Bool}
    (h : (numberShape letter width adjacent).Matches anyCase raw) : raw.length ≤ longestNumber := by
  have hmax : letter.maxDigits width ≤ longestNumber := by
    unfold longestNumber at hwidth ⊢
    cases letter <;> simp only [Letter.maxDigits] <;> omega
  obtain ⟨-, hlen⟩ := matches_numberShape_iff.1 h
  split at hlen <;> omega

/-- A field of admissible width takes its piece in, refuses the text, or does not find a name with a blurred letter. -/
theorem DatePattern.takeField_eq_error (hn : p.names.Proper) (hwidth : width ≤ longestNumber) {next : Option Token}
    (hmatch : ((Token.field letter width).shape p.names p.lenient next).Matches p.lenient raw)
    (h : p.takeField today text db r letter width raw = .error e) :
    (∃ why, e = .malformedDate text p.text why) ∨ p.Blurs letter raw ∧ e = .unlistedName raw := by
  simp only [Token.shape] at hmatch
  unfold takeField at h
  by_cases hnum : letter.isNumeric width = true
  · rw [fieldShape_of_isNumeric hnum] at hmatch
    rw [if_pos hnum, if_neg (Nat.not_lt.2 (length_le_longestNumber hwidth hmatch))] at h
    split at h
    · cases h
    · cases h
      exact .inl ⟨_, rfl⟩
  · rw [if_neg hnum] at h
    -- a name is found in its table, or it holds a blurred letter
    have hplace : ∀ {full short : List String} {f : Nat → Except Error OpenReading}, letter.isName width = true →
        (∀ name ∈ nameTable p.names p.lenient letter width, name ∈ full ∨ name ∈ short) → (∀ n, ∃ r, f n = .ok r) →
        letter ∈ [.month, .standaloneMonth, .weekday] → (placeOfName raw full short >>= f) = .error e →
        p.Blurs letter raw ∧ e = .unlistedName raw := by
      intro full short f hname htable hf hletter h
      obtain ⟨name, hmem, hsame⟩ := (matches_nameShape_iff hname).1 hmatch
      have herror : placeOfName raw full short = .error e := by
        rcases bind_eq_error_iff.1 h with h | ⟨n, -, h⟩
        · exact h
        · obtain ⟨r, hr⟩ := hf n
          rw [hr] at h
          cases h
      rcases lowerText_or_blurred (isLettered_nameTable hn p.lenient letter width) hmem hsame with hlower | hblurred
      · obtain ⟨n, hfound⟩ := exists_placeOfName (htable name hmem) hlower
        rw [hfound] at herror
        cases herror
      · exact ⟨⟨hblurred.1, hletter, hblurred.2⟩, eq_unlistedName_of_placeOfName herror⟩
    cases letter with
    | month | standaloneMonth =>
      have hname : 3 ≤ width := by
        rw [Bool.not_eq_true] at hnum
        have := of_decide_eq_false hnum
        omega
      exact .inr (hplace (decide_eq_true hname) (fun name hmem => mem_or_mem_of_mem_tables hmem) (fun n => ⟨_, rfl⟩)
        (by decide) h)
    | weekday =>
      exact .inr (hplace rfl (fun name hmem => mem_or_mem_of_mem_tables hmem) (fun n => ⟨_, rfl⟩) (by decide) h)
    | halfDay => cases h
    | zoneName | zoneId | offset | isoOffset | isoDigits | gmtOffset =>
      dsimp only at h
      split at h
      · cases h
      · cases h
        exact .inl ⟨_, rfl⟩
    | _ => exact absurd rfl hnum

/-- A pattern with fields of admissible widths reads a text, refuses it, or does not find a name in it that holds a blurred
letter. -/
theorem DatePattern.read_eq_error (hn : p.names.Proper)
    (hwidths : ∀ letter width, Token.field letter width ∈ p.tokens → width ≤ longestNumber)
    (h : p.read today text db = .error e) :
    (∃ why, e = .malformedDate text p.text why) ∨ ∃ pieces letter width raw, p.pieces? text.toList = some pieces ∧
      (Token.field letter width, raw) ∈ p.tokens.zip pieces ∧ p.Blurs letter raw ∧ e = .unlistedName raw := by
  unfold read at h
  split at h
  · cases h
    exact .inl ⟨.form, rfl⟩
  · rename_i pieces hpieces
    rcases bind_eq_error_iff.1 h with h | ⟨r, -, h⟩
    · obtain ⟨⟨token, raw⟩, hmem, r, hstep⟩ := exists_of_foldlM_eq_error h
      obtain ⟨next, hmatch⟩ := matches_of_mem_zip hpieces hmem
      cases token with
      | literal text => cases hstep
      | field letter width =>
        exact (takeField_eq_error hn (hwidths letter width (List.of_mem_zip hmem).1) hmatch hstep).imp id
          fun hblurs => ⟨pieces, letter, width, raw, hpieces, hmem, hblurs⟩
    · cases h

/-! ### Formats -/

namespace DateFormat

variable {s : Surroundings} {f : DateFormat} {spec : FormatSpec} {locale : String} {lenient : Bool}

theorem isRefusal_of_bind {db : Database} (h : bind spec locale lenient db = .error e) : e.IsRefusal := by
  unfold bind at h
  rcases bind_eq_error_iff.1 h with h | ⟨zone, -, h⟩
  · unfold FormatSpec.boundZone at h
    split at h
    · rename_i name _
      unfold resolveZone at h
      cases hname : resolveZone? name db with
      | some zone =>
        rw [hname] at h
        cases h
      | none =>
        rw [hname] at h
        cases h
        trivial
    · cases h
  · rcases bind_eq_error_iff.1 h with h | ⟨pattern, -, h⟩
    · unfold DatePattern.of at h
      split at h
      · cases h
      · cases h
        trivial
    · cases h

/-- A complete date in a text has a year that does not fit 32 bits. -/
def Overflows (f : DateFormat) (s : Surroundings) (text : String) (year : Int) : Prop :=
  ∃ r, f.pattern.read s.today text s.database = .ok r ∧ r.year = some year ∧ r.month.isSome = true ∧ r.day.isSome = true ∧
    2147483647 < year

theorem readFields_eq_error (hstrict : f.pattern.lenient = false) (hn : f.pattern.names.Proper)
    (hwidths : ∀ letter width, Token.field letter width ∈ f.pattern.tokens → width ≤ longestNumber)
    (h : f.readFields s text = .error e) : e.IsRefusal ∨ ∃ year, f.Overflows s text year ∧ e = .yearOverflow year := by
  unfold readFields at h
  rcases bind_eq_error_iff.1 h with h | ⟨r, hr, h⟩
  · rcases DatePattern.read_eq_error hn hwidths h with ⟨why, rfl⟩ | ⟨_, _, _, _, -, -, ⟨hlenient, -⟩, -⟩
    · exact .inl trivial
    · rw [hstrict] at hlenient
      cases hlenient
  · rcases bind_eq_error_iff.1 h with h | ⟨dated, -, h⟩
    · unfold Reading.withDate at h
      split at h
      · rename_i year month day hyear hmonth hday
        split at h
        · rename_i hbig
          cases h
          exact .inr ⟨year, ⟨r, hr, hyear, by rw [hmonth]; rfl, by rw [hday]; rfl, hbig⟩, rfl⟩
        · split at h
          · cases h
            exact .inl trivial
          · dsimp only at h
            split at h
            · cases h
              exact .inl trivial
            · cases h
      · cases h
    · cases h

theorem readInstant_eq_error (hf : bind spec locale lenient s.database = .ok f)
    (hwidths : ∀ letter width, Token.field letter width ∈ f.pattern.tokens → width ≤ longestNumber)
    (h : f.readInstant s text = .error e) :
    e.IsRefusal ∨ ∃ pieces letter width raw, f.pattern.pieces? text.toList = some pieces ∧
      (Token.field letter width, raw) ∈ f.pattern.tokens.zip pieces ∧ f.pattern.Blurs letter raw ∧
      e = .unlistedName raw := by
  cases hr : f.pattern.read s.today text s.database with
  | error e' =>
    unfold readInstant at h
    rw [hr] at h
    obtain rfl : e' = e := Except.error.inj h
    have hn : f.pattern.names.Proper := by
      rw [(of_bind hf).2.1]
      exact Names.proper_of _
    refine (DatePattern.read_eq_error hn hwidths hr).imp ?_ id
    rintro ⟨why, rfl⟩
    trivial
  | ok r =>
    obtain ⟨zone, hzone⟩ := exists_zone_of_read hf hr
    rw [readInstant_of_read hr (readingZone_of_or hzone s)] at h
    split at h
    · cases h
    · cases h
      exact .inl trivial

end DateFormat

/-! ### Texts -/

/-- With fields no wider than the numbers that are read, a text has its fields reported or is refused, unless a complete date
has a year beyond 32 bits; and it is read as an instant or refused, unless the name of a month or weekday holds a blurred
letter. -/
theorem isRefusal_of_error {s : Surroundings} {pattern zoneName : Option String} {text : String}
    (hwidths : ∀ ts, tokens (FormatSpec.of pattern none).pattern.toList = .ok ts →
      ∀ letter width, Token.field letter width ∈ ts → width ≤ longestNumber) :
    (∀ e, fieldsOfText s (some text) pattern = .error e → e.IsRefusal ∨
      ∃ f year, DateFormat.strict s pattern none = .ok f ∧ f.Overflows s text year ∧ e = .yearOverflow year) ∧
    (∀ e, readMillis s (some text) pattern zoneName = .error e → e.IsRefusal ∨
      ∃ f pieces letter width raw, DateFormat.lenient s pattern zoneName = .ok f ∧
        f.pattern.pieces? text.toList = some pieces ∧ (Token.field letter width, raw) ∈ f.pattern.tokens.zip pieces ∧
        f.pattern.Blurs letter raw ∧ e = .unlistedName raw) := by
  constructor
  · intro e h
    unfold fieldsOfText at h
    split at h
    · cases h
    · rename_i text' htext
      obtain rfl : text = text' := Option.some.inj (Option.eq_some_of_filter_eq_some htext)
      rcases bind_eq_error_iff.1 h with h | ⟨f, hf, h⟩
      · exact .inl (DateFormat.isRefusal_of_bind h)
      · rcases bind_eq_error_iff.1 h with h | ⟨r, -, h⟩
        · obtain ⟨htokens, hnames, hstrict, -⟩ := DateFormat.of_bind hf
          exact (DateFormat.readFields_eq_error hstrict (by rw [hnames]; exact Names.proper_of _) (hwidths _ htokens)
            h).imp id fun ⟨year, hyear, he⟩ => ⟨f, year, hf, hyear, he⟩
        · cases h
  · intro e h
    unfold readMillis at h
    rcases bind_eq_error_iff.1 h with h | ⟨f, hf, h⟩
    · exact .inl (DateFormat.isRefusal_of_bind h)
    · rcases bind_eq_error_iff.1 h with h | ⟨millis, -, h⟩
      · obtain ⟨htokens, -, -, -⟩ := DateFormat.of_bind hf
        exact (DateFormat.readInstant_eq_error hf (hwidths _ htokens) h).imp id
          fun ⟨pieces, letter, width, raw, hread⟩ => ⟨f, pieces, letter, width, raw, hf, hread⟩
      · cases h

/-- The 13th month is refused. -/
theorem isRefusal_of_error_month :
    ∃ e, fieldsOfText .bare (some "2021-13-01") (some "yyyy-MM-dd") = .error e ∧
      e.IsRefusal := by
  have hfields : fieldsOfText .bare (some "2021-13-01") (some "yyyy-MM-dd") =
      .error (.malformedDate "2021-13-01" "yyyy-MM-dd" (.outOfRange ['1', '3'] .month)) :=
    eq_error_of_failure? (by decide +kernel)
  have hwidths : ∀ ts, tokens (FormatSpec.of (some "yyyy-MM-dd") none).pattern.toList = .ok ts →
      ∀ letter width, Token.field letter width ∈ ts → width ≤ longestNumber := by
    have hts : tokens (FormatSpec.of (some "yyyy-MM-dd") none).pattern.toList =
        .ok [.field .year 4, .literal ['-'], .field .month 2, .literal ['-'], .field .day 2] :=
      eq_ok_of_toOption (by decide +kernel)
    intro ts h
    obtain rfl := Except.ok.inj (hts.symm.trans h)
    exact width_le_longestNumber (by decide)
  refine ⟨_, hfields, ?_⟩
  rcases (@isRefusal_of_error _ _ none _ hwidths).1 _ hfields with h | ⟨_, _, -, -, he⟩
  · exact h
  · cases he

/-- The long s agrees with the first letter of September and is not found, and a year beyond 32 bits is not refused. -/
theorem not_isRefusal_of_error :
    readMillis .bare (some "ſep") (some "MMM") none =
        .error (.unlistedName ['ſ', 'e', 'p']) ∧
      ¬(Error.unlistedName ['ſ', 'e', 'p']).IsRefusal ∧
      fieldsOfText .bare (some "2147483648-01-01") (some "yyyyyyyyyy-MM-dd") =
        .error (.yearOverflow 2147483648) ∧
      ¬(Error.yearOverflow 2147483648).IsRefusal :=
  ⟨eq_error_of_failure? (by decide +kernel), id, eq_error_of_failure? (by decide +kernel), id⟩

end CivilTime
