import CivilTime.Pattern.Reading
import CivilTime.Proofs.Pattern.Named
import CivilTime.Proofs.Pattern.Spelling
import CivilTime.Proofs.Pattern.Written

/-!
# Separable patterns

In a separable pattern every piece of a text ends where it can be seen to end: before a literal that cannot be taken for
more of it, or, for numbers of a fixed width, before another number (`Separable`). If the widths of the fields admit what
moments write into them (`WidthsFit`) and zones are written as offsets (`ZonesAreOffsets`), then the text of a moment is
cut into the pieces that its tokens wrote, strictly and leniently (`pieces?_write`).
-/

namespace CivilTime

/-! ### Patterns whose pieces can be told apart -/

/-- Whether a field of the letter writes a zone or its offset. -/
def Letter.isZone : Letter → Bool
  | zoneName | zoneId | offset | isoOffset | isoDigits | gmtOffset => true
  | _ => false

/-- A piece of the field ends where a character follows: no digit follows a number, no letter a name, and no character of
zones a zone. A letter is what agrees with an ASCII letter up to letter case. -/
def Letter.EndsAt (letter : Letter) (width : Nat) (c : Char) : Prop :=
  (letter.isNumeric width = true → isDigit c = false) ∧
    (letter.isName width = true → (foldCase c).isAlpha = false) ∧
    (letter.isZone = true → (foldCase c).isAlpha = false ∧ isDigit c = false ∧ c ∉ ['+', '-', ':', '/', '_'])

instance (letter : Letter) (width : Nat) (c : Char) : Decidable (letter.EndsAt width c) :=
  inferInstanceAs (Decidable (_ ∧ _ ∧ _))

/-- The piece of a token ends before the next token, if there is one: before a literal where its first character follows,
and before another field if it is a number, or if it is a name and the other one is a number. -/
def Token.EndsBefore (next : Option Token) : Token → Prop
  | .literal _ => True
  | .field letter width =>
    match next with
    | none => True
    | some (.field nextLetter nextWidth) =>
      letter.isNumeric width = true ∨ letter.isName width = true ∧ nextLetter.isNumeric nextWidth = true
    | some (.literal text) => ∀ c ∈ text.head?, letter.EndsAt width c

instance (next : Option Token) : (token : Token) → Decidable (token.EndsBefore next)
  | .literal _ => inferInstanceAs (Decidable True)
  | .field letter width =>
    match next with
    | none => inferInstanceAs (Decidable True)
    | some (.field nextLetter nextWidth) => inferInstanceAs (Decidable
        (letter.isNumeric width = true ∨ letter.isName width = true ∧ nextLetter.isNumeric nextWidth = true))
    | some (.literal text) => Option.decidableForallMem text.head?

/-- Every piece ends before the next token. -/
def Separable : List Token → Prop
  | [] => True
  | token :: rest => token.EndsBefore rest.head? ∧ Separable rest

instance : (tokens : List Token) → Decidable (Separable tokens)
  | [] => inferInstanceAs (Decidable True)
  | token :: rest =>
    have := instDecidableSeparable rest
    inferInstanceAs (Decidable (token.EndsBefore rest.head? ∧ Separable rest))

/-- The widths at which a field in digits has room for what moments write, where `adjacent` tells that another number
follows it directly. A number in front of another one must fill its field: a year of more than two digits then has four,
a millisecond has three and all others have two. Any other number may not be wider than what is read. -/
def Letter.Fits (letter : Letter) (width : Nat) (adjacent : Bool) : Prop :=
  if adjacent then letter.digits width ≤ width else width ≤ letter.maxDigits width

instance (letter : Letter) (width : Nat) (adjacent : Bool) : Decidable (letter.Fits width adjacent) :=
  inferInstanceAs (Decidable (if adjacent then _ else _))

/-- All fields in digits have room for what moments write, and none is too wide to be read. -/
def WidthsFit : List Token → Prop
  | [] => True
  | .literal _ :: rest => WidthsFit rest
  | .field letter width :: rest =>
    (letter.isNumeric width = true → width ≤ longestNumber ∧ letter.Fits width (rest.head?.any Token.isNumeric)) ∧
      WidthsFit rest

instance : (tokens : List Token) → Decidable (WidthsFit tokens)
  | [] => inferInstanceAs (Decidable True)
  | .literal _ :: rest => instDecidableWidthsFit rest
  | .field letter width :: rest =>
    have := instDecidableWidthsFit rest
    inferInstanceAs (Decidable ((letter.isNumeric width = true →
      width ≤ longestNumber ∧ letter.Fits width (rest.head?.any Token.isNumeric)) ∧ WidthsFit rest))

theorem WidthsFit.tail {token : Token} {rest : List Token} (h : WidthsFit (token :: rest)) : WidthsFit rest := by
  cases token with
  | literal text => exact h
  | field letter width => exact h.2

/-- Zones are written by the letters X, x, Z and O only. -/
def ZonesAreOffsets (tokens : List Token) : Prop :=
  ∀ letter width, Token.field letter width ∈ tokens → letter.isZone = true → letter.isOffset = true

theorem zonesAreOffsets_iff {tokens : List Token} :
    ZonesAreOffsets tokens ↔ ¬Named [.zoneName, .zoneId] tokens := by
  constructor
  · rintro h ⟨letter, hletter, width, hmem⟩
    simp only [List.mem_cons, List.not_mem_nil, or_false] at hletter
    rcases hletter with rfl | rfl
    · exact absurd (h _ width hmem rfl) (by decide)
    · exact absurd (h _ width hmem rfl) (by decide)
  · intro h letter width hmem hzone
    cases letter with
    | zoneName => exact absurd ⟨_, List.mem_cons_self, width, hmem⟩ h
    | zoneId => exact absurd ⟨_, List.mem_cons_of_mem _ List.mem_cons_self, width, hmem⟩ h
    | offset | isoOffset | isoDigits | gmtOffset => rfl
    | _ => cases hzone

instance (tokens : List Token) : Decidable (ZonesAreOffsets tokens) :=
  decidable_of_iff _ zonesAreOffsets_iff.symm

/-- No literal is empty. -/
def LiteralsNonempty (tokens : List Token) : Prop := ∀ text, Token.literal text ∈ tokens → text ≠ []

/-! ### The tokens of a pattern -/

theorem occupies_tokens {pattern : List Char} {ts : List Token} (h : tokens pattern = .ok ts) :
    ∀ token ∈ ts, token.Occupies :=
  (wellFormed_tokens h).occupies

theorem literalsNonempty_tokens {pattern : List Char} {ts : List Token} (h : tokens pattern = .ok ts) :
    LiteralsNonempty ts :=
  fun text htext => occupies_tokens h (.literal text) htext

/-! ### The pieces of a written moment -/

variable {names : Names} {letter : Letter} {width : Nat} {m : Moment} {anyCase lenient : Bool} {rest : List Char}

theorem Letter.kind (letter : Letter) (width : Nat) :
    letter.isNumeric width = true ∨ letter.isName width = true ∨ letter.isZone = true := by
  cases letter with
  | month | standaloneMonth =>
    by_cases h : width ≤ 2
    · exact .inl (decide_eq_true h)
    · exact .inr (.inl (decide_eq_true (by omega)))
  | _ => simp [isNumeric, isName, isZone]

theorem fieldShape_of_isZone (h : letter.isZone = true) (adjacent : Bool) :
    fieldShape names lenient letter width adjacent = zoneShape letter := by
  cases letter <;> first | rfl | cases h

theorem isNumeric_of_isName (h : letter.isName width = true) : letter.isNumeric width = false := by
  cases letter with
  | month | standaloneMonth =>
    have hw : 3 ≤ width := of_decide_eq_true h
    exact decide_eq_false (by omega)
  | weekday | halfDay => rfl
  | _ => cases h

theorem isNumeric_of_isZone (h : letter.isZone = true) : letter.isNumeric width = false := by
  cases letter <;> first | rfl | cases h

theorem isName_of_isZone (h : letter.isZone = true) : letter.isName width = false := by
  cases letter <;> first | rfl | cases h

/-- The token may begin with a character: a literal with its own, a number with a digit, and every other field with none. -/
def Token.BeginsWith (c : Char) : Token → Prop
  | .literal text => text.head? = some c
  | .field letter width => (letter.isNumeric width = true → isDigit c = true) ∧
      (letter.isNumeric width = false → isDigit c = false)

/-- No digit follows a number where it ends. -/
theorem Token.EndsBefore.not_isDigit {next : Token} {c : Char}
    (h : (Token.field letter width).EndsBefore (some next)) (hnum : letter.isNumeric width = true)
    (hnext : next.isNumeric = false) (hc : next.BeginsWith c) : isDigit c = false := by
  cases next with
  | literal text => exact (h c hc).1 hnum
  | field nextLetter nextWidth => exact hc.2 hnext

/-- No letter follows a name where it ends. -/
theorem Token.EndsBefore.not_isAlpha {next : Token} {c : Char}
    (h : (Token.field letter width).EndsBefore (some next)) (hname : letter.isName width = true)
    (hc : next.BeginsWith c) : (foldCase c).isAlpha = false := by
  cases next with
  | literal text => exact (h c hc).2.1 hname
  | field nextLetter nextWidth =>
    rcases h with hnum | ⟨-, hnum⟩
    · rw [isNumeric_of_isName hname] at hnum
      cases hnum
    · exact isAlpha_foldCase_of_isDigit (hc.1 hnum)

/-- A name of letters begins like a field that is no number. -/
theorem exists_cons_of_isLettered {table : List String} (ht : IsLettered table) {w : String} (hw : w ∈ table)
    (h : letter.isName width = true) : ∃ c cs, w.toList = c :: cs ∧ (Token.field letter width).BeginsWith c := by
  obtain ⟨hne, halpha⟩ := ht w hw
  cases hcs : w.toList with
  | nil => exact absurd (String.toList_inj.1 hcs) hne
  | cons c cs =>
    rw [hcs] at halpha
    have hc := List.all_eq_true.1 halpha c List.mem_cons_self
    refine ⟨c, cs, rfl, ⟨fun hnum => ?_, fun _ => isDigit_of_isAlpha hc⟩⟩
    rw [isNumeric_of_isName h] at hnum
    cases hnum

private theorem exists_cons_write (hn : names.Proper) (token : Token) (hl : ∀ text, token = .literal text → text ≠ [])
    (hz : ∀ letter width, token = .field letter width → letter.isZone = true → letter.isOffset = true) :
    ∃ c cs, (token.write names m).toList = c :: cs ∧ token.BeginsWith c := by
  cases token with
  | literal text =>
    cases text with
    | nil => exact absurd rfl (hl [] rfl)
    | cons c cs => exact ⟨c, cs, by simp [Token.write], rfl⟩
  | field letter width =>
    simp only [Token.write]
    rcases letter.kind width with h | h | h
    · have hpos := length_padded_pos width (letter.number width m)
      have hdigit := fun c => @isDigit_of_mem_padded width (letter.number width m) c
      rw [writeField_number h]
      cases hp : (padded width (letter.number width m)).toList with
      | nil =>
        rw [hp] at hpos
        exact absurd hpos (by decide)
      | cons c cs =>
        rw [hp] at hdigit
        exact ⟨c, cs, rfl, fun _ => isDigit_of_char (hdigit c List.mem_cons_self),
          fun hno => by rw [h] at hno; cases hno⟩
    · exact exists_cons_of_isLettered (isLettered_nameTable hn false letter width)
        (writeField_mem_nameTable hn h false) h
    · obtain ⟨c, cs, hcs, hc⟩ := @exists_cons_writeField_offset names letter width m (hz letter width rfl h)
      refine ⟨c, cs, hcs, ⟨fun hnum => ?_, fun _ => hc⟩⟩
      rw [isNumeric_of_isZone h] at hnum
      cases hnum

private theorem head?_write (hn : names.Proper) {tokens : List Token} (hl : LiteralsNonempty tokens)
    (hz : ZonesAreOffsets tokens) :
    ∀ c ∈ (tokens.map fun token => (token.write names m).toList).flatten.head?,
      ∃ token ∈ tokens.head?, token.BeginsWith c := by
  cases tokens with
  | nil =>
    intro c hc
    cases hc
  | cons token rest =>
    obtain ⟨c, cs, hcs, hbegins⟩ := exists_cons_write (m := m) hn token
      (fun text e => hl text (by rw [e]; exact List.mem_cons_self))
      (fun letter width e => hz letter width (by rw [e]; exact List.mem_cons_self))
    intro d hd
    rw [List.map_cons, List.flatten_cons, hcs, List.cons_append, List.head?_cons, Option.mem_some_iff] at hd
    subst hd
    exact ⟨token, rfl, hbegins⟩

theorem Letter.digits_le_maxDigits (letter : Letter) (width : Nat) :
    letter.digits width ≤ letter.maxDigits width := by
  cases letter with
  | year | extendedYear =>
    simp only [digits, maxDigits]
    split <;> omega
  | millisecond =>
    simp only [digits, maxDigits]
    omega
  | _ => exact Nat.le_refl 2

/-- Every token prefers the piece that it wrote, in front of those of the following tokens. -/
private theorem prefers_write (hn : names.Proper) (hm : m.time.isSupported = true) (ho : m.offset.natAbs ≤ 64800)
    {token : Token} {tokens : List Token} (hends : token.EndsBefore tokens.head?)
    (hw : WidthsFit (token :: tokens)) (hz : ZonesAreOffsets (token :: tokens))
    (hl : LiteralsNonempty (token :: tokens)) :
    (token.shape names lenient tokens.head?).Prefers anyCase (token.write names m).toList
      (tokens.map fun token => (token.write names m).toList).flatten := by
  have hrest := @head?_write names m hn tokens (fun text h => hl text (List.mem_cons_of_mem _ h))
    (fun letter width h => hz letter width (List.mem_cons_of_mem _ h))
  cases token with
  | literal text =>
    have htext : (Token.write names m (.literal text)).toList = text := String.toList_ofList
    rw [htext]
    exact Shape.prefers_word anyCase text _
  | field letter width =>
    simp only [Token.shape, Token.write]
    -- a number, a name or a zone: each needs another fact about the character that follows it
    rcases letter.kind width with h | h | h
    · have hfit := (hw.1 h).2
      rw [fieldShape_of_isNumeric h]
      cases hadj : tokens.head?.any Token.isNumeric with
      | true =>
        rw [hadj] at hfit
        exact prefers_adjacent hm h hfit
      | false =>
        rw [hadj] at hfit
        refine prefers_number hm h (letter.digits_le_maxDigits width) hfit fun c hc => ?_
        obtain ⟨next, hnext, hbegins⟩ := hrest c hc
        rw [hnext] at hends hadj
        exact hends.not_isDigit h hadj hbegins
    · rw [fieldShape_of_isName h]
      refine prefers_name (isLettered_nameTable hn lenient letter width) (writeField_mem_nameTable hn h lenient)
        fun c hc => ?_
      obtain ⟨next, hnext, hbegins⟩ := hrest c hc
      rw [hnext] at hends
      exact hends.not_isAlpha h hbegins
    · rw [fieldShape_of_isZone h]
      refine prefers_writeField_offset (hz letter width List.mem_cons_self h) ho fun c hc => ?_
      obtain ⟨next, hnext, hbegins⟩ := hrest c hc
      rw [hnext] at hends
      cases next with
      | literal text =>
        obtain ⟨-, hdigit, hmem⟩ := (hends c hbegins).2.2 h
        refine ⟨hdigit, ?_, ?_, ?_⟩
        · rintro rfl
          exact hmem (by decide)
        · rintro rfl
          exact hmem (by decide)
        · rintro rfl
          exact hmem (by decide)
      | field nextLetter nextWidth =>
        rcases hends with hnum | ⟨hname, -⟩
        · rw [isNumeric_of_isZone h] at hnum
          cases hnum
        · rw [isName_of_isZone h] at hname
          cases hname

private theorem allPrefer_write (hn : names.Proper) (hm : m.time.isSupported = true) (ho : m.offset.natAbs ≤ 64800)
    {tokens : List Token} (hsep : Separable tokens) (hw : WidthsFit tokens) (hz : ZonesAreOffsets tokens)
    (hl : LiteralsNonempty tokens) :
    AllPrefer anyCase (tokenShapes names lenient tokens) (tokens.map fun token => (token.write names m).toList) := by
  induction tokens with
  | nil => trivial
  | cons token rest ih =>
    exact ⟨prefers_write hn hm ho hsep.1 hw hz hl, ih hsep.2 hw.tail
      (fun letter width h => hz letter width (List.mem_cons_of_mem _ h))
      (fun text h => hl text (List.mem_cons_of_mem _ h))⟩

/-- The text of a moment is cut into the pieces that the tokens of a separable pattern wrote. -/
theorem pieces?_write {p : DatePattern} (hn : p.names.Proper) (hm : m.time.isSupported = true)
    (ho : m.offset.natAbs ≤ 64800) (hsep : Separable p.tokens) (hw : WidthsFit p.tokens)
    (hz : ZonesAreOffsets p.tokens) (hl : LiteralsNonempty p.tokens) :
    p.pieces? (p.write m).toList = some (p.tokens.map fun token => (token.write p.names m).toList) := by
  have hacc : (fun rest : List Char => p.lenient || rest.isEmpty) [] = true := Bool.or_true _
  have hprefer := @allPrefer_write p.names m p.lenient p.lenient hn hm ho p.tokens hsep hw hz hl
  rw [DatePattern.pieces?, DatePattern.toList_write, List.flatMap_def]
  exact cutAll_eq_of_allPrefer hacc hprefer

end CivilTime
