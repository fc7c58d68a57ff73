import CivilTime.Proofs.Pattern.Separable

/-!
# Reading written moments back

Of several fields for one part of a moment the last one decides (`lastField?`). So the reading of what the tokens of a
pattern wrote is known in advance (`DatePattern.readBack`): it holds the parts that the tokens name, with the year as a
field of two digits tells it, and the zone as a fixed offset in whole minutes. Taking in the piece of one more token leads
from the reading of the tokens before it to that of the tokens with it (`DatePattern.take_readBack`), and so a written
moment is read back as a whole (`DatePattern.read_write`).
-/

namespace CivilTime

/-! ### What is read back -/

/-- The year that a field of that width reads back. -/
def yearBack (lenient : Bool) (today : Date) (width : Nat) (year : Int) : Int :=
  if width = 2 then twoDigitYear lenient today (year.toNat % 100) else year

/-- The clock of a letter that does not count the hours from 0 to 23. -/
def Letter.clock : Letter → HourClock
  | hourFromOne => .fromOne
  | halfDayHour => .halfDay
  | _ => .halfDayFromOne

/-- The reading of the pieces that the tokens wrote at a moment. -/
def DatePattern.readBack (p : DatePattern) (today : Date) (m : Moment) (tokens : List Token) : OpenReading where
  fields :=
    { year := (lastField? [.year, .extendedYear] tokens).map fun field =>
        yearBack p.lenient today field.2 m.time.date.year
      month := (lastField? [.month, .standaloneMonth] tokens).map fun _ => m.time.date.month
      day := (lastField? [.day] tokens).map fun _ => m.time.date.day
      weekday := (lastField? [.weekday] tokens).map fun _ => weekdayOfDay m.time.day
      hour := (lastField? [.hour] tokens).map fun _ => m.time.hour
      minute := (lastField? [.minute] tokens).map fun _ => m.time.minute
      second := (lastField? [.second] tokens).map fun _ => m.time.second
      millisecond := (lastField? [.millisecond] tokens).map fun _ => m.time.milli
      zone := (lastField? offsetLetters tokens).bind fun field =>
        (readOffset? (writeField p.names field.1 field.2 m)).map .ofOffset }
  afternoon := (lastField? [.halfDay] tokens).map fun _ => decide (12 ≤ m.time.hour)
  clockHour := (lastField? clockLetters tokens).map fun field => (field.1.clock, field.1.number field.2 m)

/-! ### Numbers -/

variable {letter : Letter} {width : Nat} {tokens : List Token} {p : DatePattern} {today : Date} {text : String}
  {db : Database} {m : Moment}

/-- What a moment writes is within the bounds of exact reading. -/
theorem number_inBounds {least most : Nat} (h : letter.bounds? = some (least, most)) :
    least ≤ letter.number width m ∧ letter.number width m ≤ most := by
  obtain ⟨hmo, hmo', hd, hd'⟩ := m.time.date_bounds
  have hlen := monthLength_bounds m.time.date.year m.time.date.month
  have hh := m.time.hour_lt
  have hmin := m.time.minute_lt
  have hs := m.time.second_lt
  cases letter <;> simp only [Letter.bounds?, Option.some.injEq, Prod.mk.injEq, reduceCtorEq] at h <;>
    obtain ⟨rfl, rfl⟩ := h <;> simp only [Letter.number]
  case hourFromOne | clockHour => split <;> omega
  all_goals omega

theorem fieldNumber_padded (lenient : Bool) :
    fieldNumber lenient letter (padded width (letter.number width m)).toList = .ok (letter.number width m) := by
  unfold fieldNumber
  rw [numeralValue_padded]
  cases hb : letter.bounds? with
  | none => rfl
  | some bounds =>
    obtain ⟨hle, hge⟩ := @number_inBounds letter width m _ _ hb
    have hin : (lenient || (decide (bounds.1 ≤ letter.number width m) && decide (letter.number width m ≤ bounds.2))) =
        true := by
      rw [decide_eq_true hle, decide_eq_true hge, Bool.and_self, Bool.or_true]
    exact if_pos hin

private theorem yearBack_padded {year : Int} (hy : 0 ≤ year) (lenient : Bool) (today : Date) (width : Nat) {n : Nat}
    (hn : n = if width = 2 then year.toNat % 100 else year.toNat) :
    (if width = 2 && (padded width n).toList.length = 2 then twoDigitYear lenient today n else (n : Int)) =
      yearBack lenient today width year := by
  unfold yearBack
  by_cases hw : width = 2
  · rw [if_pos hw] at hn ⊢
    subst hw
    have hlen := length_padded_two (show n < 100 by omega)
    rw [if_pos (by simp [hlen]), hn]
  · rw [if_neg hw] at hn ⊢
    rw [if_neg (by simp [hw]), hn]
    omega

/-- The number that a field wrote is taken in as the part of the moment that it stands for. -/
private theorem takeField_number (hm : m.time.isSupported = true) (h : letter.isNumeric width = true)
    (hw : width ≤ longestNumber) (done : List Token) :
    p.takeField today text db (p.readBack today m done) letter width (writeField p.names letter width m).toList =
      .ok (p.readBack today m (done ++ [.field letter width])) := by
  have hdigits := (letter.digits_bounds width).2
  have hlen := length_padded_number_le hm letter width
  have hlong : ¬longestNumber < (padded width (letter.number width m)).toList.length := by
    unfold longestNumber at hw ⊢
    omega
  have hy := (LocalTime.year_bounds hm).1
  rw [writeField_number h]
  unfold DatePattern.takeField
  rw [if_pos h, if_neg hlong, fieldNumber_padded]
  cases letter with
  | year | extendedYear =>
    have hyear := @yearBack_padded m.time.date.year (by omega) p.lenient today width _ rfl
    dsimp only [OpenReading.takeNumber, Letter.number]
    rw [hyear]
    simp [DatePattern.readBack, clockLetters, offsetLetters]
  | month | standaloneMonth | day | hour | hourFromOne | halfDayHour | clockHour | minute | second | millisecond =>
    simp [OpenReading.takeNumber, DatePattern.readBack, clockLetters, offsetLetters, Letter.number, Letter.clock]
  | _ => cases h

/-! ### Names and zones -/

/-- Every name of the tables is found at its place. -/
def FindsAll (full short : List String) (count : Nat) : Prop :=
  ∀ n ∈ List.range' 1 count, ∀ table ∈ [full, short],
    (indexOfName? (nameAt table n).toList full).or (indexOfName? (nameAt table n).toList short) = some n

instance (full short : List String) (count : Nat) : Decidable (FindsAll full short count) :=
  List.decidableBAll _ (List.range' 1 count)

/-- Months, weekdays and the halves of the day are told apart by their names in any letter case. -/
structure Names.Distinct (names : Names) : Prop where
  months : FindsAll names.months names.shortMonths 12
  weekdays : FindsAll names.weekdays names.shortWeekdays 7
  halves : lowerText names.forenoon.toList ≠ lowerText names.afternoon.toList

theorem Names.distinct_of (locale : String) : (Names.of locale).Distinct := by
  rcases Names.of_cases locale with e | e
  · rw [e]
    exact ⟨by decide +kernel, by decide +kernel, by decide +kernel⟩
  · rw [e]
    exact ⟨by decide +kernel, by decide +kernel, by decide +kernel⟩

private theorem FindsAll.placeOfName {full short : List String} {count n : Nat} (h : FindsAll full short count)
    (hn : 1 ≤ n) (hn' : n ≤ count) {table : List String} (ht : table ∈ [full, short]) :
    placeOfName (nameAt table n).toList full short = .ok n := by
  have hfound := h n (List.mem_range'_1.2 ⟨hn, by omega⟩) table ht
  unfold CivilTime.placeOfName
  rw [hfound]

private theorem placeOfName_month (hn : p.names.Distinct) (hw : 3 ≤ width) :
    placeOfName (writeField p.names .month width m).toList p.names.months p.names.shortMonths =
      .ok m.time.date.month := by
  obtain ⟨hmo, hmo', -, -⟩ := m.time.date_bounds
  simp only [writeField]
  by_cases hfull : 4 ≤ width
  · rw [if_pos hfull]
    exact hn.months.placeOfName hmo hmo' List.mem_cons_self
  · rw [if_neg hfull, if_pos (by omega)]
    exact hn.months.placeOfName hmo hmo' (List.mem_cons_of_mem _ List.mem_cons_self)

private theorem placeOfName_weekday (hn : p.names.Distinct) :
    placeOfName (writeField p.names .weekday width m).toList p.names.weekdays p.names.shortWeekdays =
      .ok (weekdayOfDay m.time.day) := by
  obtain ⟨hw, hw'⟩ := weekdayOfDay_bounds m.time.day
  apply hn.weekdays.placeOfName hw hw'
  split <;> simp

private theorem lowerText_halfDay (hn : p.names.Distinct) :
    (lowerText (writeField p.names .halfDay width m).toList == lowerText p.names.afternoon.toList) =
      decide (12 ≤ m.time.hour) := by
  simp only [writeField]
  by_cases hh : m.time.hour < 12
  · rw [if_pos hh, decide_eq_false (by omega), beq_eq_false_iff_ne]
    exact hn.halves
  · rw [if_neg hh, decide_eq_true (by omega), beq_self_eq_true]

private theorem takeField_name (hn : p.names.Distinct) (h : letter.isName width = true) (done : List Token) :
    p.takeField today text db (p.readBack today m done) letter width (writeField p.names letter width m).toList =
      .ok (p.readBack today m (done ++ [.field letter width])) := by
  unfold DatePattern.takeField
  rw [if_neg (by rw [isNumeric_of_isName h]; decide)]
  cases letter with
  | month =>
    dsimp only
    rw [placeOfName_month hn (of_decide_eq_true h)]
    change Except.ok _ = Except.ok _
    simp [DatePattern.readBack, clockLetters, offsetLetters]
  | standaloneMonth =>
    have hsame : writeField p.names .standaloneMonth width m = writeField p.names .month width m := rfl
    dsimp only
    rw [hsame, placeOfName_month hn (of_decide_eq_true h)]
    change Except.ok _ = Except.ok _
    simp [DatePattern.readBack, clockLetters, offsetLetters]
  | weekday =>
    dsimp only
    rw [placeOfName_weekday hn]
    change Except.ok _ = Except.ok _
    simp [DatePattern.readBack, clockLetters, offsetLetters]
  | halfDay =>
    dsimp only
    rw [lowerText_halfDay hn]
    change Except.ok _ = Except.ok _
    simp [DatePattern.readBack, clockLetters, offsetLetters]
  | _ => cases h

private theorem takeField_zone (ho : m.offset.natAbs ≤ 64800) (h : letter.isOffset = true) (done : List Token) :
    p.takeField today text db (p.readBack today m done) letter width (writeField p.names letter width m).toList =
      .ok (p.readBack today m (done ++ [.field letter width])) := by
  obtain ⟨name, hname⟩ := @readOffset?_writeField p.names letter width m h ho
  have hnum : letter.isNumeric width = false := by
    cases letter <;> first | rfl | cases h
  unfold DatePattern.takeField
  rw [String.ofList_toList, if_neg (by rw [hnum]; decide)]
  cases letter with
  | offset | isoOffset | isoDigits | gmtOffset =>
    dsimp only
    rw [readZone?_writeField h ho, hname]
    change Except.ok _ = Except.ok _
    simp [DatePattern.readBack, clockLetters, offsetLetters, hname]
  | _ => cases h

/-! ### Texts -/

/-- Taking in the piece that a token wrote leads from the reading of the tokens before it to that with it. -/
theorem DatePattern.take_readBack (hn : p.names.Distinct) (hm : m.time.isSupported = true)
    (ho : m.offset.natAbs ≤ 64800) {token : Token}
    (hw : ∀ letter width, token = .field letter width → letter.isNumeric width = true → width ≤ longestNumber)
    (hz : ∀ letter width, token = .field letter width → letter.isZone = true → letter.isOffset = true)
    (done : List Token) :
    p.take today text db (p.readBack today m done) (token, (token.write p.names m).toList) =
      .ok (p.readBack today m (done ++ [token])) := by
  cases token with
  | literal text => simp [take, readBack]
  | field letter width =>
    rcases letter.kind width with h | h | h
    · exact takeField_number hm h (hw letter width rfl h) done
    · exact takeField_name hn h done
    · exact takeField_zone ho (hz letter width rfl h) done

theorem DatePattern.foldlM_take (hn : p.names.Distinct) (hm : m.time.isSupported = true) (ho : m.offset.natAbs ≤ 64800)
    {tokens : List Token} (hw : WidthsFit tokens) (hz : ZonesAreOffsets tokens) (done : List Token) :
    (tokens.zip (tokens.map fun token => (token.write p.names m).toList)).foldlM (p.take today text db)
      (p.readBack today m done) = .ok (p.readBack today m (done ++ tokens)) := by
  induction tokens generalizing done with
  | nil =>
    rw [List.append_nil]
    rfl
  | cons token rest ih =>
    have hstep := @DatePattern.take_readBack p today text db m hn hm ho token ?_ ?_ done
    · rw [List.map_cons, List.zip_cons_cons, List.foldlM_cons, hstep]
      have := ih hw.tail (fun letter width h => hz letter width (List.mem_cons_of_mem _ h)) (done ++ [token])
      rw [List.append_assoc, List.singleton_append] at this
      exact this
    · rintro letter width rfl h
      exact (hw.1 h).1
    · rintro letter width rfl h
      exact hz letter width List.mem_cons_self h

/-! ### Hours -/

/-- The hour can be told from the fields: the last hour on another clock counts from 1 to 24, or the half of the day
occurs. Otherwise the hour is left to a field for the hour from 0 to 23, and only by exact reading. -/
def HourTold (lenient : Bool) (tokens : List Token) : Prop :=
  match lastField? clockLetters tokens with
  | some (letter, _) => letter = .hourFromOne ∨ Named [.halfDay] tokens ∨ lenient = false ∧ Named [.hour] tokens
  | none => Named [.hour] tokens

private theorem hourOfDay_number (hletter : letter ∈ clockLetters) {afternoon : Bool}
    (h : letter = .hourFromOne ∨ afternoon = decide (12 ≤ m.time.hour)) :
    OpenReading.hourOfDay letter.clock (letter.number width m) afternoon = m.time.hour := by
  have hlt := m.time.hour_lt
  simp only [clockLetters, List.mem_cons, List.not_mem_nil, or_false] at hletter
  rcases hletter with rfl | rfl | rfl
  · simp only [Letter.clock, Letter.number, OpenReading.hourOfDay]
    split <;> split <;> omega
  · obtain rfl := h.resolve_left (by decide)
    simp only [Letter.clock, Letter.number, OpenReading.hourOfDay, decide_eq_true_eq]
    split <;> omega
  · obtain rfl := h.resolve_left (by decide)
    simp only [Letter.clock, Letter.number, OpenReading.hourOfDay, decide_eq_true_eq]
    split <;> split <;> split <;> omega

theorem OpenReading.exists_settle (r : OpenReading) (lenient : Bool) :
    ∃ hour, r.settle lenient = { r.fields with hour := hour } := by
  unfold settle
  split
  · exact ⟨r.fields.hour, rfl⟩
  · split
    · exact ⟨_, rfl⟩
    · exact ⟨r.fields.hour, rfl⟩

/-- The hour is read back where it can be told. -/
theorem DatePattern.hour_settle_readBack {lenient : Bool} (h : HourTold lenient tokens) :
    ((p.readBack today m tokens).settle lenient).hour = some m.time.hour := by
  have hhour : Named [.hour] tokens → (p.readBack today m tokens).fields.hour = some m.time.hour := by
    intro hnamed
    obtain ⟨field, hfield⟩ := hnamed.exists_lastField?
    simp [readBack, hfield]
  have hclock : (p.readBack today m tokens).clockHour =
      (lastField? clockLetters tokens).map fun field => (field.1.clock, field.1.number field.2 m) := rfl
  have hhalf : (p.readBack today m tokens).afternoon =
      (lastField? [.halfDay] tokens).map fun _ => decide (12 ≤ m.time.hour) := rfl
  unfold HourTold at h
  unfold OpenReading.settle
  cases hlast : lastField? clockLetters tokens with
  | none =>
    rw [hlast] at h hclock
    rw [hclock]
    exact hhour h
  | some field =>
    obtain ⟨letter, width⟩ := field
    obtain ⟨hletter, -⟩ := mem_of_lastField? hlast
    rw [hlast] at h hclock
    rw [hclock]
    dsimp only [Option.map_some]
    -- otherwise the hour on the other clock is left open, and the field for the hour from 0 to 23 stands
    by_cases hone : letter = .hourFromOne ∨ Named [.halfDay] tokens
    · have hvalue : OpenReading.hourOfDay letter.clock (letter.number width m)
          ((p.readBack today m tokens).afternoon.getD false) = m.time.hour := by
        apply hourOfDay_number hletter
        rcases hone with hone | hnamed
        · exact .inl hone
        · obtain ⟨half, he⟩ := hnamed.exists_lastField?
          exact .inr (by rw [hhalf, he]; rfl)
      rw [if_pos ?_, hvalue]
      rcases hone with rfl | hnamed
      · rfl
      · obtain ⟨half, he⟩ := hnamed.exists_lastField?
        rw [hhalf, he, Option.map_some, Option.isSome_some, Bool.or_true, Bool.true_or]
    · obtain ⟨hletter', hunnamed⟩ := not_or.1 hone
      obtain ⟨rfl, hnamed⟩ := (h.resolve_left hletter').resolve_left hunnamed
      have hotherClock : letter.clock ≠ .fromOne := by
        simp only [clockLetters, List.mem_cons, List.not_mem_nil, or_false] at hletter
        rcases hletter with rfl | rfl | rfl
        · exact absurd rfl hletter'
        · decide
        · decide
      rw [if_neg ?_]
      · exact hhour hnamed
      · rw [hhalf, lastField?_eq_none hunnamed, decide_eq_false hotherClock, Option.map_none]
        decide

/-! ### Parts of a moment -/

/-- The reading tells the parts of the moment that the tokens name, but for the hour; of zones it tells the offset in whole
minutes. -/
structure Reading.Tells (r : Reading) (m : Moment) (tokens : List Token) : Prop where
  year : Named [.year, .extendedYear] tokens → r.year = some m.time.date.year
  month : Named [.month, .standaloneMonth] tokens → r.month = some m.time.date.month
  day : Named [.day] tokens → r.day = some m.time.date.day
  weekday : Named [.weekday] tokens → r.weekday = some (weekdayOfDay m.time.day)
  minute : Named [.minute] tokens → r.minute = some m.time.minute
  second : Named [.second] tokens → r.second = some m.time.second
  millisecond : Named [.millisecond] tokens → r.millisecond = some m.time.milli
  zone : Named offsetLetters tokens → ∃ name, r.zone = some (.fixed (60 * (m.offset / 60)) name)

private theorem Named.map_lastField? {α : Type} {letters : List Letter} (h : Named letters tokens) (a : α) :
    ((lastField? letters tokens).map fun _ => a) = some a := by
  obtain ⟨field, hfield⟩ := h.exists_lastField?
  rw [hfield]
  rfl

theorem DatePattern.tells_settle_readBack (ho : m.offset.natAbs ≤ 64800) (lenient : Bool)
    (hyear : ∀ letter width, lastField? [.year, .extendedYear] tokens = some (letter, width) →
      yearBack p.lenient today width m.time.date.year = m.time.date.year) :
    ((p.readBack today m tokens).settle lenient).Tells m tokens := by
  obtain ⟨hour, hsettle⟩ := (p.readBack today m tokens).exists_settle lenient
  rw [hsettle]
  constructor
  case year =>
    intro hnamed
    obtain ⟨⟨letter, width⟩, hlast⟩ := hnamed.exists_lastField?
    simp only [readBack, hlast, Option.map_some, hyear letter width hlast]
  case zone =>
    intro hnamed
    obtain ⟨⟨letter, width⟩, hlast⟩ := hnamed.exists_lastField?
    obtain ⟨hletter, -⟩ := mem_of_lastField? hlast
    have hoffset : letter.isOffset = true := by
      simp only [offsetLetters, List.mem_cons, List.not_mem_nil, or_false] at hletter
      rcases hletter with rfl | rfl | rfl | rfl <;> rfl
    obtain ⟨name, hname⟩ := @readOffset?_writeField p.names letter width m hoffset ho
    refine ⟨name, ?_⟩
    simp only [readBack, hlast, Option.bind_some, hname, Option.map_some, Zone.ofOffset]
  all_goals exact fun hnamed => hnamed.map_lastField? _

/-- The parts of a date that the reading holds are those of the local time. -/
structure Reading.Dates (r : Reading) (t : LocalTime) : Prop where
  year : ∀ year ∈ r.year, year = t.date.year
  month : ∀ month ∈ r.month, month = t.date.month
  day : ∀ day ∈ r.day, day = t.date.day
  weekday : ∀ weekday ∈ r.weekday, weekday = weekdayOfDay t.day

theorem DatePattern.dates_settle_readBack (lenient : Bool)
    (hyear : ∀ letter width, lastField? [.year, .extendedYear] tokens = some (letter, width) →
      yearBack p.lenient today width m.time.date.year = m.time.date.year) :
    ((p.readBack today m tokens).settle lenient).Dates m.time := by
  obtain ⟨hour, hsettle⟩ := (p.readBack today m tokens).exists_settle lenient
  have hmap : ∀ {α : Type} {last : Option (Letter × Nat)} {a : α}, ∀ b ∈ last.map fun _ => a, b = a := by
    intro α last a b hb
    obtain ⟨-, -, rfl⟩ := Option.map_eq_some_iff.1 hb
    rfl
  rw [hsettle]
  constructor
  case year =>
    intro year h
    obtain ⟨field, hlast, rfl⟩ := Option.map_eq_some_iff.1 h
    exact hyear field.1 field.2 hlast
  all_goals exact hmap

/-- A moment that a separable pattern wrote is read back. -/
theorem DatePattern.read_write {p : DatePattern} (hn : p.names.Proper) (hd : p.names.Distinct)
    (hm : m.time.isSupported = true) (ho : m.offset.natAbs ≤ 64800) (hsep : Separable p.tokens)
    (hw : WidthsFit p.tokens) (hz : ZonesAreOffsets p.tokens) (hl : LiteralsNonempty p.tokens) (today : Date)
    (db : Database) :
    p.read today (p.write m) db = .ok ((p.readBack today m p.tokens).settle p.lenient) := by
  have hfold := @foldlM_take p today (p.write m) db m hd hm ho p.tokens hw hz []
  have hempty : p.readBack today m [] = .empty := rfl
  rw [read_of_pieces? (pieces?_write hn hm ho hsep hw hz hl), ← hempty, hfold]
  rfl

end CivilTime
