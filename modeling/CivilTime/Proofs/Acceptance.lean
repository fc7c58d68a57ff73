import CivilTime.Proofs.Pattern.LastPieces
import CivilTime.Proofs.Refusals

/-!
# What exact patterns accept

A separable pattern reads a text exactly if the text has a split into pieces that the tokens admit, with numbers within the
bounds of their fields and zones that are known (`DatePattern.read_iff_split`). There is no other split
(`IsSplit.unique`), so it is the one that the search finds (`DatePattern.pieces?_eq_some_iff`). The last piece for each part of
a date decides (`DatePattern.readingOf`), and every text without such a split is refused as malformed.
-/

namespace CivilTime

/-- What a piece of a token stands for is accepted: a number lies within the bounds of its field, and a zone is known. -/
def Token.Accepts (db : Database) (piece : List Char) : Token → Prop
  | .literal _ => True
  | .field letter width =>
    if letter.isNumeric width then
      ∀ bounds ∈ letter.bounds?, bounds.1 ≤ numeralValue piece ∧ numeralValue piece ≤ bounds.2
    else letter.isZone = true → (readZone? false (String.ofList piece) db).isSome = true

variable {p : DatePattern} {today : Date} {text : String} {db : Database} {r r' : OpenReading} {letter : Letter}
  {width : Nat} {piece : List Char} {pieces : List (List Char)}

/-! ### One piece -/

/-- A piece that is taken in exactly is accepted. -/
theorem DatePattern.Takes.accepts (hstrict : p.lenient = false) (h : p.Takes today db r letter width piece r') :
    (Token.field letter width).Accepts db piece := by
  cases h with
  | @number value hnum hlong hvalue =>
    rw [hstrict] at hvalue
    simp only [Token.Accepts, hnum, if_true]
    intro bounds hbounds
    rw [← eq_numeralValue_of_fieldNumber hvalue]
    exact bounds_of_fieldNumber hvalue hbounds
  | month hletter hnum =>
    simp only [Token.Accepts, hnum, Bool.false_eq_true, if_false]
    intro hzone
    simp only [List.mem_cons, List.not_mem_nil, or_false] at hletter
    rcases hletter with rfl | rfl <;> cases hzone
  | weekday hletter =>
    subst hletter
    intro hzone
    cases hzone
  | halfDay hletter =>
    subst hletter
    intro hzone
    cases hzone
  | @zone zone hletter hread =>
    rw [hstrict] at hread
    have hzone := mem_zoneLetters_iff.1 hletter
    simp only [Token.Accepts, isNumeric_of_isZone hzone, Bool.false_eq_true, if_false]
    intro _
    rw [hread]
    rfl

/-- Exact reading takes a number within the bounds of its field. -/
theorem fieldNumber_of_bounds
    (h : ∀ bounds ∈ letter.bounds?, bounds.1 ≤ numeralValue piece ∧ numeralValue piece ≤ bounds.2) :
    fieldNumber false letter piece = .ok (numeralValue piece) := by
  unfold fieldNumber
  cases hb : letter.bounds? with
  | none => rfl
  | some bounds =>
    obtain ⟨hleast, hmost⟩ := h bounds hb
    simp [hleast, hmost]

/-- A piece that a field of admissible width admits is taken in, if it is accepted. -/
theorem DatePattern.exists_takes (hstrict : p.lenient = false) (hwidth : width ≤ longestNumber) {next : Option Token}
    (hadmits : (Token.field letter width).Admits p.names next piece) (haccepts : (Token.field letter width).Accepts db piece)
    (r : OpenReading) : ∃ r', p.Takes today db r letter width piece r' := by
  simp only [Token.Admits] at hadmits
  simp only [Token.Accepts] at haccepts
  rcases letter.kind width with hnum | hname | hzone
  · rw [if_pos hnum] at hadmits haccepts
    have hmatch : (numberShape letter width (next.any Token.isNumeric)).Matches false piece :=
      matches_numberShape_iff.2 hadmits
    have hvalue : fieldNumber p.lenient letter piece = .ok (numeralValue piece) := by
      rw [hstrict]
      exact fieldNumber_of_bounds haccepts
    exact ⟨_, .number hnum (length_le_longestNumber hwidth hmatch) hvalue⟩
  · have hnum := isNumeric_of_isName hname
    rw [hnum, if_neg (by decide), if_pos hname] at hadmits
    obtain ⟨name, hmem, rfl⟩ := hadmits
    cases letter with
    | month | standaloneMonth =>
      have hmem : name ∈ if false then p.names.months ++ p.names.shortMonths else if width = 3 then _ else _ := hmem
      obtain ⟨n, hn⟩ := exists_placeOfName (mem_or_mem_of_mem_tables hmem) rfl
      exact ⟨_, .month (by decide) hnum hn⟩
    | weekday =>
      have hmem : name ∈ if false then p.names.weekdays ++ p.names.shortWeekdays else if width ≤ 3 then _ else _ := hmem
      obtain ⟨n, hn⟩ := exists_placeOfName (mem_or_mem_of_mem_tables hmem) rfl
      exact ⟨_, .weekday rfl hn⟩
    | halfDay => exact ⟨_, .halfDay rfl⟩
    | _ => cases hname
  · rw [isNumeric_of_isZone hzone, if_neg (by decide)] at haccepts
    obtain ⟨zone, hread⟩ := Option.isSome_iff_exists.1 (haccepts hzone)
    exact ⟨_, .zone (mem_zoneLetters_iff.2 hzone) (by rw [hstrict]; exact hread)⟩

/-! ### All pieces -/

namespace DatePattern

/-- The search finds the split of a text, the only one that there is. -/
theorem pieces?_eq_some_iff (hstrict : p.lenient = false) (hn : p.names.Proper)
    (hoccupies : ∀ token ∈ p.tokens, token.Occupies) (hsep : Separable p.tokens) {cs : List Char} :
    p.pieces? cs = some pieces ↔ IsSplit p.names p.tokens pieces ∧ pieces.flatten = cs := by
  have hcut : p.pieces? cs = cutAll false List.isEmpty (tokenShapes p.names false p.tokens) cs := by
    unfold pieces?
    rw [hstrict]
    rfl
  rw [hcut, isSplit_iff_allMatch]
  apply cutAll_isEmpty_eq_some_iff
  intro ps qs hps hqs hp hq
  exact (isSplit_iff_allMatch.2 hps).unique hn hoccupies hsep (isSplit_iff_allMatch.2 hqs) (hp.trans hq.symm)

/-- The pieces of a text that is read exactly are accepted. -/
theorem accepts_of_foldlM (hstrict : p.lenient = false) {taken : List (Token × List Char)}
    (h : taken.foldlM (p.take today text db) .empty = .ok r) : ∀ entry ∈ taken, entry.1.Accepts db entry.2 := by
  refine foldlM_invariant (P := fun done _ => ∀ entry ∈ done, entry.1.Accepts db entry.2) h (by simp) ?_
  rintro done ⟨token, piece⟩ - r r' hdone hstep
  refine List.forall_mem_append.2 ⟨hdone, ?_⟩
  simp only [List.mem_singleton, forall_eq]
  cases token with
  | literal text => trivial
  | field letter width => exact (takes_of_takeField hstep).accepts hstrict

/-- Pieces that are accepted are taken in. -/
theorem exists_foldlM_of_accepts (hstrict : p.lenient = false)
    (hwidths : ∀ letter width, Token.field letter width ∈ p.tokens → width ≤ longestNumber)
    (hpieces : p.pieces? text.toList = some pieces)
    (haccepts : ∀ entry ∈ p.tokens.zip pieces, entry.1.Accepts db entry.2) :
    ∃ r, (p.tokens.zip pieces).foldlM (p.take today text db) .empty = .ok r := by
  cases hfold : (p.tokens.zip pieces).foldlM (p.take today text db) .empty with
  | ok r => exact ⟨r, rfl⟩
  | error e =>
    obtain ⟨⟨token, piece⟩, hmem, r, hstep⟩ := exists_of_foldlM_eq_error hfold
    obtain ⟨next, hmatch⟩ := matches_of_mem_zip hpieces hmem
    rw [hstrict, ← Token.admits_iff_matches] at hmatch
    cases token with
    | literal text => cases hstep
    | field letter width =>
      have hwidth := hwidths letter width (List.of_mem_zip hmem).1
      obtain ⟨r', htakes⟩ : ∃ r', p.Takes today db r letter width piece r' :=
        exists_takes hstrict hwidth hmatch (haccepts _ hmem) r
      cases (takeField_of_takes htakes).symm.trans hstep

/-- An exact pattern that is separable reads a text exactly if the text has a split, the only one that there is, with numbers
within bounds and zones that are known. Each part of the date is then read off the last piece of the split for it; any other text
is malformed. -/
theorem read_iff_split {pattern locale : String} (hp : DatePattern.of pattern (.of locale) false = .ok p)
    (hsep : Separable p.tokens)
    (hwidths : ∀ letter width, Token.field letter width ∈ p.tokens → width ≤ longestNumber) (today : Date)
    (text : String) (db : Database) :
    (∀ ps qs, IsSplit p.names p.tokens ps → IsSplit p.names p.tokens qs → ps.flatten = text.toList →
      qs.flatten = text.toList → ps = qs) ∧
    ((∃ reading, p.read today text db = .ok reading) ↔
      ∃ pieces, IsSplit p.names p.tokens pieces ∧ pieces.flatten = text.toList ∧
        ∀ entry ∈ p.tokens.zip pieces, entry.1.Accepts db entry.2) ∧
    (∀ pieces reading, IsSplit p.names p.tokens pieces → pieces.flatten = text.toList →
      p.read today text db = .ok reading →
        reading = (p.readingOf today db (p.tokens.zip pieces)).settle false) ∧
    ∀ e, p.read today text db = .error e → ∃ why, e = .malformedDate text p.text why := by
  obtain ⟨hstrict, hn, hoccupies⟩ : p.lenient = false ∧ p.names.Proper ∧ ∀ token ∈ p.tokens, token.Occupies := by
    obtain ⟨ts, hts, rfl⟩ := of_eq_ok_iff.1 hp
    exact ⟨rfl, Names.proper_of locale, occupies_tokens hts⟩
  have hpieces := fun pieces => @pieces?_eq_some_iff p pieces hstrict hn hoccupies hsep text.toList
  refine ⟨?_, ?_, fun pieces reading hsplit hflatten h => ?_, ?_⟩
  · intro ps qs hps hqs hp hq
    exact hps.unique hn hoccupies hsep hqs (hp.trans hq.symm)
  · constructor
    · rintro ⟨reading, h⟩
      obtain ⟨pieces, r, hfound, -, hr, -⟩ := exists_pieces_of_read h
      obtain ⟨hsplit, hflatten⟩ := (hpieces pieces).1 hfound
      exact ⟨pieces, hsplit, hflatten, accepts_of_foldlM hstrict hr⟩
    · rintro ⟨pieces, hsplit, hflatten, haccepts⟩
      have hfound := (hpieces pieces).2 ⟨hsplit, hflatten⟩
      obtain ⟨r, hr⟩ := exists_foldlM_of_accepts hstrict hwidths hfound haccepts
      refine ⟨r.settle p.lenient, ?_⟩
      rw [read_of_pieces? hfound, hr]
      rfl
  · obtain ⟨found, r, hfound, -, hr, rfl⟩ := exists_pieces_of_read h
    obtain rfl := Option.some.inj (hfound.symm.trans ((hpieces pieces).2 ⟨hsplit, hflatten⟩))
    rw [eq_readingOf hr, hstrict]
  · intro e h
    rcases read_eq_error hn hwidths h with hmalformed | ⟨_, _, _, _, -, -, ⟨hlenient, -⟩, -⟩
    · exact hmalformed
    · rw [hstrict] at hlenient
      cases hlenient

/-- A date and an offset have a split. -/
theorem read_iff_split_offset :
    ∃ p, DatePattern.of "yyyyMMdd XXX" (.of "en_GB") false = .ok p ∧ Separable p.tokens ∧
      (∀ letter width, Token.field letter width ∈ p.tokens → width ≤ longestNumber) ∧
      ∃ pieces, IsSplit p.names p.tokens pieces ∧ pieces.flatten = "20210701 +02:00".toList ∧
        ∀ entry ∈ p.tokens.zip pieces, entry.1.Accepts .listed entry.2 := by
  have hp : DatePattern.of "yyyyMMdd XXX" (.of "en_GB") false = .ok ⟨"yyyyMMdd XXX",
      [.field .year 4, .field .month 2, .field .day 2, .literal [' '], .field .isoOffset 3], .british, false⟩ :=
    eq_ok_of_toOption (by decide +kernel)
  have hsep : Separable [.field .year 4, .field .month 2, .field .day 2, .literal [' '], .field .isoOffset 3] := by
    decide +kernel
  have hwidths : ∀ letter width, Token.field letter width ∈
      [Token.field .year 4, .field .month 2, .field .day 2, .literal [' '], .field .isoOffset 3] →
        width ≤ longestNumber :=
    width_le_longestNumber (by decide)
  obtain ⟨-, hiff, -, -⟩ := read_iff_split hp hsep hwidths ⟨2021, 1, 1⟩ "20210701 +02:00" .listed
  exact ⟨_, hp, hsep, hwidths, hiff.1 ⟨⟨some 2021, some 7, some 1, none, none, none, none, none, some (.fixed 7200 "+02:00")⟩,
    eq_ok_of_toOption (by decide +kernel)⟩⟩

end DatePattern

end CivilTime
