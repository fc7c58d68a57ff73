import CivilTime.Proofs.Dates
import CivilTime.Proofs.Zone.OffsetText

/-!
# What fields write

A field in digits writes a number (`Letter.number`), which has no more digits than the field admits (`number_lt`). A field
in letters writes one of the names of its table (`writeField_mem_nameTable`), and these consist of ASCII letters. In front of
what cannot continue it the piece that is written is the one that the field's shape prefers (`prefers_number`,
`prefers_name`).
-/

namespace CivilTime

/-! ### Numbers -/

/-- The number that a field in digits writes. -/
def Letter.number (letter : Letter) (width : Nat) (m : Moment) : Nat :=
  match letter with
  | year | extendedYear => if width = 2 then m.time.date.year.toNat % 100 else m.time.date.year.toNat
  | month | standaloneMonth => m.time.date.month
  | day => m.time.date.day
  | hour => m.time.hour
  | hourFromOne => if m.time.hour = 0 then 24 else m.time.hour
  | halfDayHour => m.time.hour % 12
  | clockHour => if m.time.hour % 12 = 0 then 12 else m.time.hour % 12
  | minute => m.time.minute
  | second => m.time.second
  | millisecond => m.time.milli
  | _ => 0

/-- The greatest number of digits that a moment asks of a field in digits. -/
def Letter.digits (letter : Letter) (width : Nat) : Nat :=
  match letter with
  | year | extendedYear => if width = 2 then 2 else 4
  | millisecond => 3
  | _ => 2

theorem Letter.digits_bounds (letter : Letter) (width : Nat) : 0 < letter.digits width ∧ letter.digits width ≤ 4 := by
  cases letter with
  | year | extendedYear =>
    simp only [digits]
    split <;> decide
  | _ => simp [digits]

variable {names : Names} {letter : Letter} {width : Nat} {m : Moment} {anyCase : Bool} {rest : List Char}

theorem writeField_number (h : letter.isNumeric width = true) :
    writeField names letter width m = padded width (letter.number width m) := by
  cases letter with
  | year | extendedYear =>
    simp only [writeField, Letter.number]
    split
    · rename_i hw
      rw [hw]
    · rfl
  | month | standaloneMonth =>
    have hw : width ≤ 2 := of_decide_eq_true h
    simp only [writeField, Letter.number]
    rw [if_neg (by omega), if_neg (by omega)]
  | day | hour | hourFromOne | halfDayHour | clockHour | minute | second | millisecond => rfl
  | _ => cases h

theorem number_lt (hm : m.time.isSupported = true) (letter : Letter) (width : Nat) :
    letter.number width m < Nat.pow 10 (letter.digits width) := by
  obtain ⟨hy, hy'⟩ := LocalTime.year_bounds hm
  obtain ⟨hmo, hmo', hd, hd'⟩ := m.time.date_bounds
  have hlen := monthLength_bounds m.time.date.year m.time.date.month
  have hh := m.time.hour_lt
  have hmin := m.time.minute_lt
  have hs := m.time.second_lt
  have hms := m.time.milli_lt
  cases letter with
  | year | extendedYear =>
    simp only [Letter.number, Letter.digits]
    split
    · exact Nat.mod_lt _ (by decide)
    · change _ < 10000
      omega
  | hourFromOne | clockHour =>
    simp only [Letter.number, Letter.digits, Nat.pow_eq, Nat.reducePow]
    split <;> omega
  | _ =>
    simp only [Letter.number, Letter.digits, Nat.pow_eq, Nat.reducePow]
    omega

/-- What a field in digits writes is no longer than its width and the digits that a moment asks of it. -/
theorem length_padded_number_le (hm : m.time.isSupported = true) (letter : Letter) (width : Nat) :
    (padded width (letter.number width m)).toList.length ≤ max width (letter.digits width) :=
  length_padded_le (letter.digits_bounds width).1 (number_lt hm letter width)

/-- A number is preferred in front of what is no digit, where its field is as wide as the field admits. -/
theorem prefers_number (hm : m.time.isSupported = true) (h : letter.isNumeric width = true)
    (hdigits : letter.digits width ≤ letter.maxDigits width) (hwidth : width ≤ letter.maxDigits width)
    (hrest : ∀ c ∈ rest.head?, isDigit c = false) :
    (numberShape letter width false).Prefers anyCase (writeField names letter width m).toList rest := by
  rw [writeField_number h]
  have hle := length_padded_number_le hm letter width
  have hone := length_padded_pos width (letter.number width m)
  refine Shape.prefers_run (fun c hc => accepts_digit (isDigit_of_mem_padded hc)) (by omega) ?_ (.inr fun c hc => ?_)
  · intro n hn
    cases hn
    omega
  · rw [← Bool.not_eq_true]
    intro hacc
    have := hrest c hc
    rw [isDigit_of_accepts hacc] at this
    cases this

/-- In front of another number a number is preferred that fills its field. -/
theorem prefers_adjacent (hm : m.time.isSupported = true) (h : letter.isNumeric width = true)
    (hwidth : letter.digits width ≤ width) :
    (numberShape letter width true).Prefers anyCase (writeField names letter width m).toList rest := by
  rw [writeField_number h]
  have hle := length_padded_number_le hm letter width
  have hge := le_length_padded width (letter.number width m)
  refine Shape.prefers_run (fun c hc => accepts_digit (isDigit_of_mem_padded hc)) (by omega) ?_ (.inl ?_)
  · intro n hn
    cases hn
    omega
  · exact congrArg some (by omega)

/-! ### Names -/

/-- Whether a field of the letter writes a name at the given width. -/
def Letter.isName : Letter → Nat → Bool
  | month, width | standaloneMonth, width => 3 ≤ width
  | weekday, _ | halfDay, _ => true
  | _, _ => false

/-- A table of names that consist of letters. -/
def IsLettered (table : List String) : Prop := ∀ w ∈ table, w ≠ "" ∧ w.toList.all Char.isAlpha = true

instance (table : List String) : Decidable (IsLettered table) :=
  List.decidableBAll _ table

/-- The tables of names are full, and all names consist of letters. -/
structure Names.Proper (names : Names) : Prop where
  months : names.months.length = 12
  shortMonths : names.shortMonths.length = 12
  weekdays : names.weekdays.length = 7
  shortWeekdays : names.shortWeekdays.length = 7
  lettered : IsLettered (names.months ++ names.shortMonths ++ names.weekdays ++ names.shortWeekdays ++
    [names.forenoon, names.afternoon])

theorem Names.of_cases (locale : String) : Names.of locale = .english ∨ Names.of locale = .british := by
  unfold Names.of
  split
  · exact .inr rfl
  · exact .inl rfl

theorem Names.proper_of (locale : String) : (Names.of locale).Proper := by
  rcases Names.of_cases locale with e | e
  · rw [e]
    exact ⟨rfl, rfl, rfl, rfl, by decide +kernel⟩
  · rw [e]
    exact ⟨rfl, rfl, rfl, rfl, by decide +kernel⟩

theorem nameAt_mem {table : List String} {n : Nat} (h : 1 ≤ n) (h' : n ≤ table.length) : nameAt table n ∈ table := by
  unfold nameAt
  rw [List.getD_eq_getElem?_getD, List.getElem?_eq_getElem (by omega), Option.getD_some]
  exact List.getElem_mem _

theorem weekdayOfDay_bounds (day : Int) : 1 ≤ weekdayOfDay day ∧ weekdayOfDay day ≤ 7 := by
  unfold weekdayOfDay
  omega

/-- The names that a field in letters may have in a text. -/
def nameTable (names : Names) (lenient : Bool) : Letter → Nat → List String
  | .month, width | .standaloneMonth, width => monthNames names lenient width
  | .weekday, width => weekdayNames names lenient width
  | .halfDay, _ => [names.forenoon, names.afternoon]
  | _, _ => []

theorem fieldShape_of_isNumeric (h : letter.isNumeric width = true) (lenient adjacent : Bool) :
    fieldShape names lenient letter width adjacent = numberShape letter width adjacent :=
  if_pos h

theorem fieldShape_of_isName (h : letter.isName width = true) (lenient adjacent : Bool) :
    fieldShape names lenient letter width adjacent = namesShape (nameTable names lenient letter width) := by
  cases letter with
  | month | standaloneMonth =>
    have hwidth : 3 ≤ width := of_decide_eq_true h
    have hno : ¬width ≤ 2 := by omega
    simp [fieldShape, Letter.isNumeric, hno, nameTable]
  | weekday | halfDay => rfl
  | _ => cases h

theorem mem_or_mem_of_mem_tables {full short : List String} {w : String} {lenient : Bool} {p : Prop}
    [Decidable p] (h : w ∈ if lenient then full ++ short else if p then short else full) : w ∈ full ∨ w ∈ short := by
  split at h
  · exact List.mem_append.1 h
  · split at h
    · exact .inr h
    · exact .inl h

theorem isLettered_nameTable (hn : names.Proper) (lenient : Bool) (letter : Letter) (width : Nat) :
    IsLettered (nameTable names lenient letter width) := by
  intro w hw
  refine hn.lettered w ?_
  simp only [List.mem_append, List.mem_cons, List.not_mem_nil, or_false]
  cases letter with
  | month | standaloneMonth => exact .inl (.inl (.inl (mem_or_mem_of_mem_tables hw)))
  | weekday =>
    rcases mem_or_mem_of_mem_tables hw with h | h
    · exact .inl (.inl (.inr h))
    · exact .inl (.inr h)
  | halfDay => exact .inr (by simpa [nameTable] using hw)
  | _ => cases hw

/-- Lenient reading admits every name that exact reading admits. -/
theorem nameTable_subset (letter : Letter) (width : Nat) :
    nameTable names false letter width ⊆ nameTable names true letter width := by
  intro w hw
  cases letter with
  | month | standaloneMonth =>
    have hw : w ∈ if false then names.months ++ names.shortMonths else if width = 3 then _ else _ := hw
    exact List.mem_append.2 (mem_or_mem_of_mem_tables hw)
  | weekday =>
    have hw : w ∈ if false then names.weekdays ++ names.shortWeekdays else if width ≤ 3 then _ else _ := hw
    exact List.mem_append.2 (mem_or_mem_of_mem_tables hw)
  | halfDay => exact hw
  | _ => cases hw

/-- A field in letters writes a name of its table. -/
theorem writeField_mem_nameTable (hn : names.Proper) (h : letter.isName width = true) (lenient : Bool) :
    writeField names letter width m ∈ nameTable names lenient letter width := by
  obtain ⟨hmo, hmo', -, -⟩ := m.time.date_bounds
  obtain ⟨hw, hw'⟩ := weekdayOfDay_bounds m.time.day
  -- full names are written exactly where exact reading expects them
  suffices hexact : writeField names letter width m ∈ nameTable names false letter width by
    cases lenient with
    | false => exact hexact
    | true => exact nameTable_subset letter width hexact
  cases letter with
  | month | standaloneMonth =>
    have hwidth : 3 ≤ width := of_decide_eq_true h
    simp only [writeField, nameTable, monthNames, Bool.false_eq_true, if_false]
    by_cases hthree : width = 3
    · rw [if_pos hthree, if_neg (show ¬4 ≤ width by omega), if_pos hthree]
      exact nameAt_mem hmo (by rw [hn.shortMonths]; exact hmo')
    · rw [if_neg hthree, if_pos (show 4 ≤ width by omega)]
      exact nameAt_mem hmo (by rw [hn.months]; exact hmo')
  | weekday =>
    simp only [writeField, nameTable, weekdayNames, Bool.false_eq_true, if_false]
    by_cases hshort : width ≤ 3
    · rw [if_pos hshort, if_neg (show ¬4 ≤ width by omega)]
      exact nameAt_mem hw (by rw [hn.shortWeekdays]; exact hw')
    · rw [if_neg hshort, if_pos (show 4 ≤ width by omega)]
      exact nameAt_mem hw (by rw [hn.weekdays]; exact hw')
  | halfDay =>
    simp only [writeField, nameTable]
    split <;> simp
  | _ => cases h

/-! ### Preferred names -/

private theorem mem_insertByLength {v w : List Char} {ws : List (List Char)} :
    v ∈ insertByLength w ws ↔ v = w ∨ v ∈ ws := by
  induction ws with
  | nil => simp [insertByLength]
  | cons u ws ih =>
    unfold insertByLength
    split
    · simp
    · simp only [List.mem_cons, ih]
      exact or_left_comm

theorem mem_longestFirst {v : List Char} {ws : List (List Char)} : v ∈ longestFirst ws ↔ v ∈ ws := by
  unfold longestFirst
  induction ws with
  | nil => simp
  | cons w ws ih => simp [mem_insertByLength, ih]

/-- The texts of a row of names are those that agree with a name. -/
theorem matches_namesShape_iff {table : List String} {cs : List Char} :
    (namesShape table).Matches anyCase cs ↔ ∃ name ∈ table, sameTexts anyCase name.toList cs = true := by
  unfold namesShape
  rw [Shape.matches_words_iff]
  constructor
  · rintro ⟨w, hw, hsame⟩
    obtain ⟨name, hname, rfl⟩ := List.mem_map.1 (mem_longestFirst.1 hw)
    exact ⟨name, hname, hsame⟩
  · rintro ⟨name, hname, hsame⟩
    exact ⟨name.toList, mem_longestFirst.2 (List.mem_map_of_mem hname), hsame⟩

private theorem pairwise_insertByLength {w : List Char} {ws : List (List Char)}
    (h : ws.Pairwise fun u v => v.length ≤ u.length) : (insertByLength w ws).Pairwise fun u v => v.length ≤ u.length := by
  induction ws with
  | nil => simp [insertByLength]
  | cons u ws ih =>
    rw [List.pairwise_cons] at h
    unfold insertByLength
    split
    · rename_i hle
      rw [List.pairwise_cons, List.pairwise_cons]
      refine ⟨fun v hv => ?_, h⟩
      rcases List.mem_cons.1 hv with rfl | hv
      · exact hle
      · exact Nat.le_trans (h.1 v hv) hle
    · rename_i hgt
      rw [List.pairwise_cons]
      refine ⟨fun v hv => ?_, ih h.2⟩
      rcases mem_insertByLength.1 hv with rfl | hv
      · omega
      · exact h.1 v hv

theorem pairwise_longestFirst (ws : List (List Char)) :
    (longestFirst ws).Pairwise fun u v => v.length ≤ u.length := by
  unfold longestFirst
  induction ws with
  | nil => exact List.Pairwise.nil
  | cons w ws ih => exact pairwise_insertByLength ih

private theorem sameUpToCase_of_sameTexts {as bs : List Char} {i : Nat} (h : sameTexts anyCase as bs = true)
    (ha : i < as.length) (hb : i < bs.length) : sameUpToCase anyCase as[i] bs[i] = true := by
  induction as generalizing bs i with
  | nil => simp at ha
  | cons a as ih =>
    cases bs with
    | nil => simp at hb
    | cons b bs =>
      simp only [sameTexts, Bool.and_eq_true] at h
      cases i with
      | zero => exact h.1
      | succ i => exact ih h.2 (by simpa using ha) (by simpa using hb)

/-- A name is preferred in front of what is no letter. -/
theorem prefers_name {table : List String} (ht : IsLettered table) {w : String} (hw : w ∈ table)
    (hrest : ∀ c ∈ rest.head?, (foldCase c).isAlpha = false) : (namesShape table).Prefers anyCase w.toList rest := by
  refine Shape.prefers_words (pairwise_longestFirst _) (mem_longestFirst.2 (List.mem_map_of_mem hw)) fun v hv hfit => ?_
  obtain ⟨name, hname, rfl⟩ := List.mem_map.1 (mem_longestFirst.1 hv)
  by_cases hle : name.toList.length ≤ w.toList.length
  · exact hle
  · -- a longer name would go on with a letter where the rest begins
    obtain ⟨left, hleft⟩ := Option.isSome_iff_exists.1 hfit
    obtain ⟨piece, hlen, he, hsame⟩ := restAfter?_eq_some_iff.1 hleft
    have hi : w.toList.length < name.toList.length := by omega
    have hp : w.toList.length < piece.length := by omega
    have hchar := sameUpToCase_of_sameTexts hsame hi hp
    have halpha := List.all_eq_true.1 (ht name hname).2 _ (List.getElem_mem hi)
    have hfold := isAlpha_foldCase_of_sameUpToCase halpha hchar
    have hhead : rest.head? = some piece[w.toList.length] := by
      have h1 : (w.toList ++ rest)[w.toList.length]? = some piece[w.toList.length] := by
        rw [he, List.getElem?_append_left hp, List.getElem?_eq_getElem hp]
      rw [List.getElem?_append_right (Nat.le_refl _), Nat.sub_self] at h1
      rw [List.head?_eq_getElem?, h1]
    rw [hrest _ hhead] at hfold
    cases hfold

end CivilTime
