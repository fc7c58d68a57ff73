import CivilTime.Proofs.Outcome
import CivilTime.Proofs.Pattern.ReadBack

/-!
# What a reading takes in

A piece has the shape of its token (`DatePattern.matches_of_mem_zip`), and that of a field is taken in as a number, as the
place of a name, as a half of the day or as a zone (`DatePattern.Takes`). From what one piece adds to a reading follows what
a reading holds when all pieces are taken in: those parts of a date that the tokens name (`Reading.Covers`), and in a strict
reading only values that the parts can have (`Reading.InRange`). An hour on another clock is settled to an hour of the day,
and no other part is changed by that.
-/

namespace CivilTime

/-! ### The shape of a piece -/

section

variable {names : Names} {letter : Letter} {width : Nat} {lenient anyCase adjacent : Bool} {raw : List Char}

/-- A field in digits has digits only, and as many of them as its width allows. -/
theorem matches_numberShape_iff :
    (numberShape letter width adjacent).Matches anyCase raw ↔ (∀ c ∈ raw, isDigit c = true) ∧
      if adjacent then raw.length = width else 1 ≤ raw.length ∧ raw.length ≤ letter.maxDigits width := by
  have hdigits : (∀ c ∈ raw, CharClass.digit.accepts anyCase c = true) ↔ ∀ c ∈ raw, isDigit c = true :=
    ⟨fun h c hc => isDigit_of_accepts (h c hc), fun h c hc => accepts_of_isDigit (h c hc)⟩
  unfold numberShape
  cases adjacent with
  | true =>
    simp only [if_true, Shape.matches_run_iff, hdigits, Option.mem_some_iff, forall_eq']
    refine and_congr Iff.rfl ⟨fun ⟨hge, hle⟩ => Nat.le_antisymm hle hge, ?_⟩
    rintro rfl
    exact ⟨Nat.le_refl _, Nat.le_refl _⟩
  | false =>
    simp only [Bool.false_eq_true, if_false, Shape.matches_run_iff, hdigits, Option.mem_some_iff, forall_eq']

/-- A field in letters has one of its names. -/
theorem matches_nameShape_iff (h : letter.isName width = true) :
    (fieldShape names lenient letter width adjacent).Matches anyCase raw ↔
      ∃ name ∈ nameTable names lenient letter width, sameTexts anyCase name.toList raw = true := by
  rw [fieldShape_of_isName h, matches_namesShape_iff]

/-- Each piece has the shape of its token. -/
theorem DatePattern.matches_of_mem_zip {p : DatePattern} {chars : List Char} {pieces : List (List Char)} {token : Token}
    (h : p.pieces? chars = some pieces) (hmem : (token, raw) ∈ p.tokens.zip pieces) :
    ∃ next, (token.shape p.names p.lenient next).Matches p.lenient raw := by
  have hall : ∀ tokens pieces, AllMatch p.lenient (tokenShapes p.names p.lenient tokens) pieces →
      (token, raw) ∈ tokens.zip pieces → ∃ next, (token.shape p.names p.lenient next).Matches p.lenient raw := by
    intro tokens
    induction tokens with
    | nil =>
      intro pieces _ hmem
      cases hmem
    | cons first tokens ih =>
      intro pieces h hmem
      cases pieces with
      | nil => cases hmem
      | cons piece pieces =>
        rcases List.mem_cons.1 hmem with e | hmem
        · cases e
          exact ⟨_, h.1⟩
        · exact ih pieces h.2 hmem
  exact hall p.tokens pieces (cutAll_sound h).1 hmem

end

/-! ### One piece -/

/-- The ways to take in the piece of a field, with the reading that each leads to. -/
inductive DatePattern.Takes (p : DatePattern) (today : Date) (db : Database) (r : OpenReading) (letter : Letter)
    (width : Nat) (raw : List Char) : OpenReading → Prop where
  | number {value : Nat} : letter.isNumeric width = true → raw.length ≤ longestNumber →
      fieldNumber p.lenient letter raw = .ok value →
      Takes p today db r letter width raw (r.takeNumber p.lenient today letter width raw value)
  | month {n : Nat} : letter ∈ [.month, .standaloneMonth] → letter.isNumeric width = false →
      placeOfName raw p.names.months p.names.shortMonths = .ok n →
      Takes p today db r letter width raw { r with fields.month := some n }
  | weekday {n : Nat} : letter = .weekday → placeOfName raw p.names.weekdays p.names.shortWeekdays = .ok n →
      Takes p today db r letter width raw { r with fields.weekday := some n }
  | halfDay : letter = .halfDay →
      Takes p today db r letter width raw
        { r with afternoon := some (lowerText raw == lowerText p.names.afternoon.toList) }
  | zone {zone : Zone} : letter ∈ zoneLetters → readZone? p.lenient (String.ofList raw) db = some zone →
      Takes p today db r letter width raw { r with fields.zone := some zone }

variable {p : DatePattern} {today : Date} {text : String} {db : Database} {r r' : OpenReading} {letter : Letter}
  {width : Nat} {raw : List Char}

theorem DatePattern.takes_of_takeField (h : p.takeField today text db r letter width raw = .ok r') :
    p.Takes today db r letter width raw r' := by
  unfold takeField at h
  by_cases hnum : letter.isNumeric width = true
  · rw [if_pos hnum] at h
    split at h
    · cases h
    · rename_i hlong
      split at h
      · rename_i value hvalue
        cases h
        exact .number hnum (Nat.le_of_not_lt hlong) hvalue
      · cases h
  · rw [if_neg hnum] at h
    rw [Bool.not_eq_true] at hnum
    cases letter with
    | month | standaloneMonth =>
      obtain ⟨n, hn, he⟩ := bind_eq_ok_iff.1 h
      cases he
      exact .month (by decide) hnum hn
    | weekday =>
      obtain ⟨n, hn, he⟩ := bind_eq_ok_iff.1 h
      cases he
      exact .weekday rfl hn
    | halfDay =>
      cases h
      exact .halfDay rfl
    | zoneName | zoneId | offset | isoOffset | isoDigits | gmtOffset =>
      dsimp only at h
      split at h
      · rename_i zone hzone
        cases h
        exact .zone (by decide) hzone
      · cases h
    | _ => cases hnum

theorem DatePattern.takeField_of_takes (h : p.Takes today db r letter width raw r') :
    p.takeField today text db r letter width raw = .ok r' := by
  unfold takeField
  cases h with
  | number hnum hlong hvalue => rw [if_pos hnum, if_neg (Nat.not_lt.2 hlong), hvalue]
  | month hletter hnum hn =>
    rw [if_neg (by rw [hnum]; decide)]
    simp only [List.mem_cons, List.not_mem_nil, or_false] at hletter
    rcases hletter with rfl | rfl
    · exact bind_eq_ok_iff.2 ⟨_, hn, rfl⟩
    · exact bind_eq_ok_iff.2 ⟨_, hn, rfl⟩
  | weekday hletter hn =>
    subst hletter
    exact bind_eq_ok_iff.2 ⟨_, hn, rfl⟩
  | halfDay hletter =>
    subst hletter
    rfl
  | zone hletter hzone =>
    simp only [zoneLetters, offsetLetters, List.cons_append, List.nil_append, List.mem_cons, List.not_mem_nil,
      or_false] at hletter
    rcases hletter with rfl | rfl | rfl | rfl | rfl | rfl <;>
      · rw [hzone]
        rfl

/-! ### The parts that are told -/

/-- The reading holds the parts that the tokens name, and no others; of the hour nothing is said. -/
structure Reading.Covers (r : Reading) (tokens : List Token) : Prop where
  year : r.year.isSome = true ↔ Named [.year, .extendedYear] tokens
  month : r.month.isSome = true ↔ Named [.month, .standaloneMonth] tokens
  day : r.day.isSome = true ↔ Named [.day] tokens
  weekday : r.weekday.isSome = true ↔ Named [.weekday] tokens
  minute : r.minute.isSome = true ↔ Named [.minute] tokens
  second : r.second.isSome = true ↔ Named [.second] tokens
  millisecond : r.millisecond.isSome = true ↔ Named [.millisecond] tokens
  zone : r.zone.isSome = true ↔ Named zoneLetters tokens

/-- The reading holds the parts that the tokens name, with the half of the day; an hour of the half-day comes from a field
for it. -/
structure OpenReading.Covers (r : OpenReading) (tokens : List Token) : Prop where
  fields : r.fields.Covers tokens
  afternoon : r.afternoon.isSome = true ↔ Named [.halfDay] tokens
  clockHour : ∀ clock n, r.clockHour = some (clock, n) → clock = .fromOne ∨ Named [.halfDayHour, .clockHour] tokens

theorem OpenReading.covers_empty : OpenReading.empty.Covers [] := by
  refine ⟨?_, ?_, fun _ _ h => by cases h⟩
  · constructor <;> simp [OpenReading.empty, Reading.empty]
  · simp [OpenReading.empty]

/-- What a piece of a field adds to the parts of a date is the part that its letter names. -/
private theorem covers_takes {done : List Token} (h : p.Takes today db r letter width raw r') (hr : r.Covers done) :
    r'.Covers (done ++ [.field letter width]) := by
  obtain ⟨⟨hyear, hmonth, hday, hweekday, hminute, hsecond, hmilli, hzone⟩, hhalf, hclock⟩ := hr
  have hclock' : ∀ clock n, r.clockHour = some (clock, n) → clock = .fromOne ∨
      Named [.halfDayHour, .clockHour] (done ++ [.field letter width]) := by
    intro clock n hc
    rw [named_field]
    exact (hclock clock n hc).imp id .inr
  cases h with
  | number hnum =>
    cases letter with
    | year | extendedYear | month | standaloneMonth | day | hour | minute | second | millisecond =>
      refine ⟨⟨?_, ?_, ?_, ?_, ?_, ?_, ?_, ?_⟩, ?_, hclock'⟩ <;>
        simp [OpenReading.takeNumber, zoneLetters, offsetLetters, hyear, hmonth, hday, hweekday, hminute, hsecond, hmilli,
          hzone, hhalf]
    | hourFromOne | halfDayHour | clockHour =>
      refine ⟨⟨?_, ?_, ?_, ?_, ?_, ?_, ?_, ?_⟩, ?_, ?_⟩ <;>
        simp [OpenReading.takeNumber, zoneLetters, offsetLetters, hyear, hmonth, hday, hweekday, hminute, hsecond, hmilli,
          hzone, hhalf]
    | _ => cases hnum
  | month hletter =>
    simp only [List.mem_cons, List.not_mem_nil, or_false] at hletter
    rcases hletter with rfl | rfl <;>
      refine ⟨⟨?_, ?_, ?_, ?_, ?_, ?_, ?_, ?_⟩, ?_, hclock'⟩ <;>
        simp [zoneLetters, offsetLetters, hyear, hday, hweekday, hminute, hsecond, hmilli, hzone, hhalf]
  | weekday hletter =>
    subst hletter
    refine ⟨⟨?_, ?_, ?_, ?_, ?_, ?_, ?_, ?_⟩, ?_, hclock'⟩ <;>
      simp [zoneLetters, offsetLetters, hyear, hmonth, hday, hminute, hsecond, hmilli, hzone, hhalf]
  | halfDay hletter =>
    subst hletter
    refine ⟨⟨?_, ?_, ?_, ?_, ?_, ?_, ?_, ?_⟩, ?_, hclock'⟩ <;>
      simp [zoneLetters, offsetLetters, hyear, hmonth, hday, hweekday, hminute, hsecond, hmilli, hzone]
  | zone hletter =>
    simp only [zoneLetters, offsetLetters, List.cons_append, List.nil_append, List.mem_cons, List.not_mem_nil,
      or_false] at hletter
    rcases hletter with rfl | rfl | rfl | rfl | rfl | rfl <;>
      refine ⟨⟨?_, ?_, ?_, ?_, ?_, ?_, ?_, ?_⟩, ?_, hclock'⟩ <;>
        simp [zoneLetters, offsetLetters, hyear, hmonth, hday, hweekday, hminute, hsecond, hmilli, hhalf]

/-- The piece of a field for the hour of the day adds it, and no piece takes it away. -/
private theorem isSome_hour_takes (h : p.Takes today db r letter width raw r')
    (hr : letter = .hour ∨ r.fields.hour.isSome = true) : r'.fields.hour.isSome = true := by
  cases h with
  | number hnum =>
    cases letter with
    | hour => rfl
    | year | extendedYear | month | standaloneMonth | day | minute | second | millisecond | hourFromOne | halfDayHour
    | clockHour => exact hr.resolve_left (by decide)
    | _ => cases hnum
  | month hletter =>
    refine hr.resolve_left ?_
    rintro rfl
    exact absurd hletter (by decide)
  | weekday hletter | halfDay hletter =>
    subst hletter
    exact hr.resolve_left (by decide)
  | zone hletter =>
    refine hr.resolve_left ?_
    rintro rfl
    exact absurd hletter (by decide)

/-! ### The values that are told -/

/-- The values that an hour on the clock has. -/
def HourClock.Shows : HourClock → Nat → Prop
  | .fromOne, n => 1 ≤ n ∧ n ≤ 24
  | .halfDay, n => n ≤ 11
  | .halfDayFromOne, n => 1 ≤ n ∧ n ≤ 12

theorem hourOfDay_le {clock : HourClock} {n : Nat} (h : clock.Shows n) (afternoon : Bool) :
    OpenReading.hourOfDay clock n afternoon ≤ 23 := by
  cases clock with
  | fromOne =>
    simp only [OpenReading.hourOfDay, HourClock.Shows] at h ⊢
    split <;> omega
  | halfDay =>
    simp only [OpenReading.hourOfDay, HourClock.Shows] at h ⊢
    split <;> omega
  | halfDayFromOne =>
    simp only [OpenReading.hourOfDay, HourClock.Shows] at h ⊢
    split <;> split <;> omega

/-- The parts that the reading holds, but for the year, have values that occur in dates and times of day. -/
structure Reading.InRange (r : Reading) : Prop where
  month : ∀ n ∈ r.month, 1 ≤ n ∧ n ≤ 12
  day : ∀ n ∈ r.day, 1 ≤ n ∧ n ≤ 31
  weekday : ∀ n ∈ r.weekday, 1 ≤ n ∧ n ≤ 7
  hour : ∀ n ∈ r.hour, n ≤ 23
  minute : ∀ n ∈ r.minute, n ≤ 59
  second : ∀ n ∈ r.second, n ≤ 59

/-- The parts that the reading holds, and its hour on another clock, have values that occur. -/
structure OpenReading.InRange (r : OpenReading) : Prop where
  fields : r.fields.InRange
  clockHour : ∀ clock n, r.clockHour = some (clock, n) → clock.Shows n

theorem OpenReading.inRange_empty : OpenReading.empty.InRange := by
  refine ⟨⟨?_, ?_, ?_, ?_, ?_, ?_⟩, ?_⟩ <;> intro _ <;> simp [OpenReading.empty, Reading.empty]

/-- Exact reading keeps a number within the bounds of its field. -/
theorem bounds_of_fieldNumber {value least most : Nat} (h : fieldNumber false letter raw = .ok value)
    (hb : letter.bounds? = some (least, most)) : least ≤ value ∧ value ≤ most := by
  unfold fieldNumber at h
  rw [hb] at h
  dsimp only at h
  split at h
  · rename_i hin
    cases h
    simpa using hin
  · cases h

theorem placeOfName_bounds {full short : List String} {n count : Nat} (hfull : full.length = count)
    (hshort : short.length = count) (h : placeOfName raw full short = .ok n) : 1 ≤ n ∧ n ≤ count := by
  have hindex : ∀ table : List String, table.length = count → ∀ n, indexOfName? raw table = some n → 1 ≤ n ∧ n ≤ count := by
    intro table ht n hn
    obtain ⟨i, hi, rfl⟩ := Option.map_eq_some_iff.1 hn
    have := (List.findIdx?_eq_some_iff_findIdx_eq.1 hi).1
    omega
  unfold placeOfName at h
  cases hor : (indexOfName? raw full).or (indexOfName? raw short) with
  | none =>
    rw [hor] at h
    cases h
  | some m =>
    rw [hor] at h
    cases h
    rcases Option.or_eq_some_iff.1 hor with hf | ⟨-, hs⟩
    · exact hindex full hfull n hf
    · exact hindex short hshort n hs

private theorem inRange_takes (hstrict : p.lenient = false) (hn : p.names.Proper)
    (h : p.Takes today db r letter width raw r') (hr : r.InRange) : r'.InRange := by
  obtain ⟨⟨hmonth, hday, hweekday, hhour, hminute, hsecond⟩, hclock⟩ := hr
  cases h with
  | number hnum _ hvalue =>
    rw [hstrict] at hvalue
    have hbounds := fun least most => @bounds_of_fieldNumber letter raw _ least most hvalue
    cases letter with
    | year | extendedYear | millisecond => exact ⟨⟨hmonth, hday, hweekday, hhour, hminute, hsecond⟩, hclock⟩
    | month | standaloneMonth =>
      refine ⟨⟨fun n hn => ?_, hday, hweekday, hhour, hminute, hsecond⟩, hclock⟩
      cases hn
      exact hbounds 1 12 rfl
    | day =>
      refine ⟨⟨hmonth, fun n hn => ?_, hweekday, hhour, hminute, hsecond⟩, hclock⟩
      cases hn
      exact hbounds 1 31 rfl
    | hour =>
      refine ⟨⟨hmonth, hday, hweekday, fun n hn => ?_, hminute, hsecond⟩, hclock⟩
      cases hn
      exact (hbounds 0 23 rfl).2
    | minute =>
      refine ⟨⟨hmonth, hday, hweekday, hhour, fun n hn => ?_, hsecond⟩, hclock⟩
      cases hn
      exact (hbounds 0 59 rfl).2
    | second =>
      refine ⟨⟨hmonth, hday, hweekday, hhour, hminute, fun n hn => ?_⟩, hclock⟩
      cases hn
      exact (hbounds 0 59 rfl).2
    | hourFromOne =>
      refine ⟨⟨hmonth, hday, hweekday, hhour, hminute, hsecond⟩, fun clock n hn => ?_⟩
      cases hn
      exact hbounds 1 24 rfl
    | halfDayHour =>
      refine ⟨⟨hmonth, hday, hweekday, hhour, hminute, hsecond⟩, fun clock n hn => ?_⟩
      cases hn
      exact (hbounds 0 11 rfl).2
    | clockHour =>
      refine ⟨⟨hmonth, hday, hweekday, hhour, hminute, hsecond⟩, fun clock n hn => ?_⟩
      cases hn
      exact hbounds 1 12 rfl
    | _ => cases hnum
  | month _ _ hplace =>
    refine ⟨⟨fun n hm => ?_, hday, hweekday, hhour, hminute, hsecond⟩, hclock⟩
    cases hm
    exact placeOfName_bounds hn.months hn.shortMonths hplace
  | weekday _ hplace =>
    refine ⟨⟨hmonth, hday, fun n hm => ?_, hhour, hminute, hsecond⟩, hclock⟩
    cases hm
    exact placeOfName_bounds hn.weekdays hn.shortWeekdays hplace
  | halfDay | zone => exact ⟨⟨hmonth, hday, hweekday, hhour, hminute, hsecond⟩, hclock⟩

/-! ### All pieces -/

theorem OpenReading.covers_settle {tokens : List Token} (h : r.Covers tokens) (lenient : Bool) :
    (r.settle lenient).Covers tokens := by
  obtain ⟨hour, hsettle⟩ := r.exists_settle lenient
  rw [hsettle]
  exact { h.fields with }

theorem OpenReading.inRange_settle (h : r.InRange) (lenient : Bool) : (r.settle lenient).InRange := by
  unfold settle
  split
  · exact h.fields
  · rename_i clock value hclock
    split
    · have hle := hourOfDay_le (h.clockHour clock value hclock) (r.afternoon.getD false)
      exact { h.fields with hour := fun n hn => by cases hn; exact hle }
    · exact h.fields

/-- A text that is read is cut into one piece for each token, the pieces have the shapes of their tokens, and they are
taken in one after the other. -/
theorem DatePattern.exists_pieces_of_read {reading : Reading} (h : p.read today text db = .ok reading) :
    ∃ pieces r, p.pieces? text.toList = some pieces ∧ pieces.length = p.tokens.length ∧
      (p.tokens.zip pieces).foldlM (p.take today text db) .empty = .ok r ∧ reading = r.settle p.lenient := by
  unfold read at h
  split at h
  · cases h
  · rename_i pieces hpieces
    obtain ⟨r, hr, he⟩ := bind_eq_ok_iff.1 h
    cases he
    have hlen := length_cutAll hpieces
    rw [length_tokenShapes] at hlen
    exact ⟨pieces, r, hpieces, hlen, hr, rfl⟩

theorem OpenReading.covers_foldlM {tokens : List Token} {pieces : List (List Char)} (hlen : pieces.length = tokens.length)
    (h : (tokens.zip pieces).foldlM (p.take today text db) .empty = .ok r) : r.Covers tokens := by
  have hfst : (tokens.zip pieces).map Prod.fst = tokens := List.map_fst_zip (Nat.le_of_eq hlen.symm)
  rw [← hfst]
  refine foldlM_invariant (P := fun done r => r.Covers (done.map Prod.fst)) h covers_empty ?_
  rintro done ⟨token, raw⟩ - r r' hr hstep
  rw [List.map_append, List.map_singleton]
  cases token with
  | literal text =>
    cases hstep
    obtain ⟨⟨hyear, hmonth, hday, hweekday, hminute, hsecond, hmilli, hzone⟩, hhalf, hclock⟩ := hr
    refine ⟨⟨?_, ?_, ?_, ?_, ?_, ?_, ?_, ?_⟩, ?_, ?_⟩ <;> simpa
  | field letter width => exact covers_takes (DatePattern.takes_of_takeField hstep) hr

theorem OpenReading.inRange_foldlM {taken : List (Token × List Char)} (hstrict : p.lenient = false)
    (hn : p.names.Proper) (h : taken.foldlM (p.take today text db) .empty = .ok r) : r.InRange := by
  refine foldlM_invariant (P := fun _ r => r.InRange) h inRange_empty ?_
  rintro done ⟨token, raw⟩ - r r' hr hstep
  cases token with
  | literal text =>
    cases hstep
    exact hr
  | field letter width => exact inRange_takes hstrict hn (DatePattern.takes_of_takeField hstep) hr

/-- A zone that is read off a text stands in it. -/
theorem DatePattern.exists_readZone?_of_read {reading : Reading} {zone : Zone} (h : p.read today text db = .ok reading)
    (hzone : reading.zone = some zone) : ∃ raw, readZone? p.lenient raw db = some zone := by
  obtain ⟨pieces, r, -, -, hr, rfl⟩ := exists_pieces_of_read h
  obtain ⟨hour, hsettle⟩ := r.exists_settle p.lenient
  rw [hsettle] at hzone
  refine foldlM_invariant (P := fun _ r => ∀ zone, r.fields.zone = some zone → ∃ raw, readZone? p.lenient raw db = some zone)
    hr (fun zone hempty => by cases hempty) ?_ zone hzone
  rintro done ⟨token, raw⟩ - r r' hr hstep zone hz
  cases token with
  | literal text =>
    cases hstep
    exact hr zone hz
  | field letter width =>
    cases takes_of_takeField hstep with
    | number hnum =>
      refine hr zone ?_
      rw [← hz]
      cases letter <;> rfl
    | month | weekday | halfDay => exact hr zone hz
    | zone hletter hread =>
      obtain rfl := Option.some.inj hz
      exact ⟨_, hread⟩

/-- A text is read as the parts of a date that the tokens of the pattern name. -/
theorem DatePattern.covers_read {reading : Reading} (h : p.read today text db = .ok reading) : reading.Covers p.tokens := by
  obtain ⟨pieces, r, -, hlen, hr, rfl⟩ := exists_pieces_of_read h
  exact OpenReading.covers_settle (OpenReading.covers_foldlM hlen hr) p.lenient

/-- Where the pattern names the hour of the day, there is an hour, though perhaps that of another clock. -/
theorem DatePattern.isSome_hour_of_read {reading : Reading} (h : p.read today text db = .ok reading)
    (hnamed : Named [.hour] p.tokens) : reading.hour.isSome = true := by
  obtain ⟨pieces, r, -, hlen, hr, rfl⟩ := exists_pieces_of_read h
  have hfst : (p.tokens.zip pieces).map Prod.fst = p.tokens := List.map_fst_zip (Nat.le_of_eq hlen.symm)
  have hour : Named [.hour] ((p.tokens.zip pieces).map Prod.fst) → r.fields.hour.isSome = true := by
    refine foldlM_invariant (P := fun done r => Named [.hour] (done.map Prod.fst) → r.fields.hour.isSome = true) hr
      (fun h => absurd h (not_named_nil _)) ?_
    rintro done ⟨token, raw⟩ - r r' hr hstep
    rw [List.map_append, List.map_singleton]
    cases token with
    | literal text =>
      cases hstep
      rwa [named_literal]
    | field letter width =>
      rw [named_field]
      rintro (hletter | hdone)
      · exact isSome_hour_takes (takes_of_takeField hstep) (.inl (List.mem_singleton.1 hletter))
      · exact isSome_hour_takes (takes_of_takeField hstep) (.inr (hr hdone))
  rw [hfst] at hour
  unfold OpenReading.settle
  split
  · exact hour hnamed
  · split
    · rfl
    · exact hour hnamed

/-- Exact reading admits only values that the parts of a date can have, but for the year. -/
theorem DatePattern.inRange_read {reading : Reading} (hstrict : p.lenient = false) (hn : p.names.Proper)
    (h : p.read today text db = .ok reading) : reading.InRange := by
  obtain ⟨pieces, r, -, -, hr, rfl⟩ := exists_pieces_of_read h
  exact OpenReading.inRange_settle (OpenReading.inRange_foldlM hstrict hn hr) p.lenient

end CivilTime
