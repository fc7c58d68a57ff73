import CivilTime.Pattern.Token

/-!
# Spelling patterns

Every row of tokens in which no neighbours are read as one (`WellFormed`) is the reading of a pattern: fields are spelled by
their letters, and literals are put in quotes, but for the apostrophes in front of them, which are doubled (`spelling`). No
other rows are read. Reading fails at an ASCII letter that stands for no field, if it is met outside quotes, and at the
end of the pattern if quotes are open there; each apostrophe opens or closes quotes (`quotesAfter`).
-/

namespace CivilTime

/-! ### Rows of tokens -/

/-- A token stands for characters of a pattern: a field has a width, and a literal is not empty. -/
def Token.Occupies : Token → Prop
  | .literal text => text ≠ []
  | .field _ width => 0 < width

instance : (token : Token) → Decidable token.Occupies
  | .literal text => inferInstanceAs (Decidable (text ≠ []))
  | .field _ width => inferInstanceAs (Decidable (0 < width))

/-- Neighbours that are read as one token: two literals, or two fields of one letter. -/
def Token.Merges : Token → Token → Prop
  | .literal _, .literal _ => True
  | .field letter _, .field next _ => letter = next
  | _, _ => False

instance : (token next : Token) → Decidable (token.Merges next)
  | .literal _, .literal _ => inferInstanceAs (Decidable True)
  | .field letter _, .field next _ => inferInstanceAs (Decidable (letter = next))
  | .literal _, .field _ _ | .field _ _, .literal _ => inferInstanceAs (Decidable False)

/-- Whether a literal merges with its neighbour does not depend on its text. -/
theorem Token.merges_literal_iff {next : Token} {text other : List Char} :
    (literal text).Merges next ↔ (literal other).Merges next := by
  cases next <;> exact Iff.rfl

/-- Whether a field merges with its neighbour does not depend on its width. -/
theorem Token.merges_field_iff {next : Token} {letter : Letter} {width other : Nat} :
    (field letter width).Merges next ↔ (field letter other).Merges next := by
  cases next <;> exact Iff.rfl

/-- Every token stands for characters, and no neighbours are read as one token. -/
def WellFormed : List Token → Prop
  | [] => True
  | token :: rest => token.Occupies ∧ (∀ next ∈ rest.head?, ¬token.Merges next) ∧ WellFormed rest

instance : (ts : List Token) → Decidable (WellFormed ts)
  | [] => inferInstanceAs (Decidable True)
  | token :: rest =>
    have := instDecidableWellFormed rest
    inferInstanceAs (Decidable (token.Occupies ∧ (∀ next ∈ rest.head?, ¬token.Merges next) ∧ WellFormed rest))

theorem WellFormed.occupies {ts : List Token} (h : WellFormed ts) : ∀ token ∈ ts, token.Occupies := by
  induction ts with
  | nil => simp
  | cons token rest ih =>
    intro t ht
    rcases List.mem_cons.1 ht with rfl | ht
    · exact h.1
    · exact ih h.2.2 t ht

/-! ### Spelling -/

/-- A text with its apostrophes doubled. -/
def doubled (text : List Char) : List Char :=
  text.flatMap fun c => if c = apostrophe then [apostrophe, apostrophe] else [c]

/-- A literal in a pattern: the apostrophes in front of it are doubled, and what remains stands in quotes with its
apostrophes doubled. -/
def spelledLiteral : List Char → List Char
  | [] => []
  | c :: cs =>
    if c = apostrophe then apostrophe :: apostrophe :: spelledLiteral cs
    else apostrophe :: doubled (c :: cs) ++ [apostrophe]

/-- The characters of a pattern that a token stands for. -/
def Token.spelled : Token → List Char
  | .field letter width => List.replicate width letter.char
  | .literal text => spelledLiteral text

/-- The pattern of a row of tokens. -/
def spelling (ts : List Token) : List Char :=
  ts.flatMap Token.spelled

/-! ### Reading character by character -/

variable {quotes : Bool} {c : Char} {cs rest text : List Char} {ts : List Token} {letter : Letter} {width : Nat}

/-- A doubled apostrophe is an apostrophe. -/
private theorem tokensFrom_apostrophe :
    tokensFrom quotes (apostrophe :: apostrophe :: cs) = (tokensFrom quotes cs).map (putChar apostrophe) := by
  simp [tokensFrom]

/-- Any other apostrophe opens or closes quotes. -/
private theorem tokensFrom_quote (h : ∀ c ∈ cs.head?, c ≠ apostrophe) :
    tokensFrom quotes (apostrophe :: cs) = tokensFrom (!quotes) cs := by
  cases cs with
  | nil => cases quotes <;> simp [tokensFrom]
  | cons d cs =>
    have hd := h d rfl
    rw [tokensFrom]
    simp [hd]

private theorem tokensFrom_char (hc : c ≠ apostrophe) (h : quotes = true ∨ c.isAlpha = false) :
    tokensFrom quotes (c :: cs) = (tokensFrom quotes cs).map (putChar c) := by
  cases cs <;> rcases h with h | h <;> simp [tokensFrom, hc, h]

private theorem ne_apostrophe_of_isAlpha (h : c.isAlpha = true) : c ≠ apostrophe := by
  rintro rfl
  revert h
  decide

private theorem tokensFrom_letter (hc : c.isAlpha = true) (hfind : Letter.ofChar? c = some letter) :
    tokensFrom false (c :: cs) = (tokensFrom false cs).map (putLetter letter) := by
  cases cs <;> simp [tokensFrom, ne_apostrophe_of_isAlpha hc, hc, hfind]

theorem Letter.isAlpha_char (letter : Letter) : letter.char.isAlpha = true := by
  cases letter <;> decide

/-! ### Reading what is spelled -/

private theorem tokensFrom_doubled (h : tokensFrom false cs = .ok ts) (hcs : ∀ c ∈ cs.head?, c ≠ apostrophe) :
    tokensFrom true (doubled text ++ apostrophe :: cs) = .ok (text.foldr putChar ts) := by
  induction text with
  | nil =>
    rw [doubled, List.flatMap_nil, List.nil_append, tokensFrom_quote hcs]
    exact h
  | cons c text ih =>
    unfold doubled at ih ⊢
    rw [List.flatMap_cons, List.append_assoc]
    by_cases hc : c = apostrophe
    · subst hc
      simp only [if_true, List.cons_append, List.nil_append]
      rw [tokensFrom_apostrophe, ih]
      rfl
    · simp only [hc, if_false, List.cons_append, List.nil_append]
      rw [tokensFrom_char hc (.inl rfl), ih]
      rfl

private theorem tokensFrom_spelledLiteral (h : tokensFrom false cs = .ok ts) (hcs : ∀ c ∈ cs.head?, c ≠ apostrophe) :
    tokensFrom false (spelledLiteral text ++ cs) = .ok (text.foldr putChar ts) := by
  induction text with
  | nil => exact h
  | cons c text ih =>
    rw [spelledLiteral]
    by_cases hc : c = apostrophe
    · subst hc
      simp only [if_true, List.cons_append]
      rw [tokensFrom_apostrophe, ih]
      rfl
    · have hquoted := @tokensFrom_doubled cs (c :: text) ts h hcs
      have hhead : ∀ d ∈ (doubled (c :: text) ++ apostrophe :: cs).head?, d ≠ apostrophe := by
        simp [doubled, hc]
      simp only [hc, if_false, List.cons_append, List.append_assoc, List.nil_append]
      rw [tokensFrom_quote hhead]
      exact hquoted

private theorem tokensFrom_replicate (h : tokensFrom false cs = .ok ts) :
    tokensFrom false (List.replicate width letter.char ++ cs) = .ok (Nat.repeat (putLetter letter) width ts) := by
  induction width with
  | zero => exact h
  | succ width ih =>
    rw [List.replicate_succ, List.cons_append, tokensFrom_letter letter.isAlpha_char letter.ofChar?_char, ih]
    rfl

private theorem foldr_putChar (hne : text ≠ []) (h : ∀ next ∈ ts.head?, ¬(Token.literal text).Merges next) :
    text.foldr putChar ts = .literal text :: ts := by
  induction text with
  | nil => exact absurd rfl hne
  | cons c text ih =>
    cases text with
    | nil =>
      cases ts with
      | nil => rfl
      | cons next ts =>
        cases next with
        | literal text => exact absurd trivial (h _ rfl)
        | field letter width => rfl
    | cons d text =>
      have hrest := ih (List.cons_ne_nil d text) fun next hnext hmerges =>
        h next hnext (Token.merges_literal_iff.1 hmerges)
      rw [List.foldr_cons, hrest]
      rfl

private theorem repeat_putLetter (hpos : 0 < width) (h : ∀ next ∈ ts.head?, ¬(Token.field letter width).Merges next) :
    Nat.repeat (putLetter letter) width ts = .field letter width :: ts := by
  induction width with
  | zero => exact absurd hpos (Nat.lt_irrefl 0)
  | succ width ih =>
    cases width with
    | zero =>
      cases ts with
      | nil => rfl
      | cons next ts =>
        cases next with
        | literal text => rfl
        | field next width =>
          have hne : next ≠ letter := fun e => h _ rfl e.symm
          simp [Nat.repeat, putLetter, hne]
    | succ width =>
      have hrest := ih (Nat.succ_pos width) fun next hnext hmerges =>
        h next hnext (Token.merges_field_iff.1 hmerges)
      rw [Nat.repeat, hrest]
      simp [putLetter]

/-- What follows a literal does not begin with an apostrophe, so the quotes of the literal are closed where it ends. -/
private theorem head?_spelling_ne_apostrophe (hocc : ∀ token ∈ ts, token.Occupies)
    (h : ∀ next ∈ ts.head?, ¬(Token.literal text).Merges next) : ∀ c ∈ (spelling ts).head?, c ≠ apostrophe := by
  cases ts with
  | nil => simp [spelling]
  | cons next rest =>
    cases next with
    | literal text => exact absurd trivial (h _ rfl)
    | field letter width =>
      have hpos : 0 < width := hocc _ List.mem_cons_self
      obtain ⟨n, rfl⟩ := Nat.exists_eq_add_one_of_ne_zero (Nat.ne_of_gt hpos)
      simp only [spelling, List.flatMap_cons, Token.spelled, List.replicate_succ, List.cons_append, List.head?_cons,
        Option.mem_some_iff]
      rintro c rfl
      exact ne_apostrophe_of_isAlpha letter.isAlpha_char

/-- A pattern that spells tokens is read as these tokens. -/
theorem tokens_spelling (h : WellFormed ts) : tokens (spelling ts) = .ok ts := by
  induction ts with
  | nil => rfl
  | cons token rest ih =>
    obtain ⟨hocc, hnext, hrest⟩ := h
    have hread : tokensFrom false (spelling rest) = .ok rest := ih hrest
    rw [tokens, spelling, List.flatMap_cons]
    cases token with
    | literal text =>
      have hhead := head?_spelling_ne_apostrophe hrest.occupies hnext
      rw [Token.spelled]
      exact (tokensFrom_spelledLiteral hread hhead).trans (congrArg Except.ok (foldr_putChar hocc hnext))
    | field letter width =>
      rw [Token.spelled]
      exact (tokensFrom_replicate hread).trans (congrArg Except.ok (repeat_putLetter hocc hnext))

/-! ### What is read -/

private theorem wellFormed_putLetter (h : WellFormed ts) : WellFormed (putLetter letter ts) := by
  unfold putLetter
  split
  · rename_i next width rest
    split
    · rename_i heq
      subst heq
      exact ⟨Nat.succ_pos width, fun next hnext hmerges => h.2.1 next hnext (Token.merges_field_iff.1 hmerges), h.2.2⟩
    · rename_i hne
      refine ⟨Nat.one_pos, ?_, h⟩
      intro other hother hmerges
      cases hother
      exact hne hmerges.symm
  · rename_i hno
    refine ⟨Nat.one_pos, ?_, h⟩
    intro next hnext hmerges
    cases ts with
    | nil => cases hnext
    | cons token rest =>
      cases hnext
      cases next with
      | literal text => exact hmerges
      | field next width => exact hno next width rest rfl

private theorem wellFormed_putChar (h : WellFormed ts) : WellFormed (putChar c ts) := by
  unfold putChar
  split
  · rename_i text rest
    exact ⟨List.cons_ne_nil c text, fun next hnext hmerges => h.2.1 next hnext (Token.merges_literal_iff.1 hmerges), h.2.2⟩
  · rename_i hno
    refine ⟨List.cons_ne_nil c [], ?_, h⟩
    intro next hnext hmerges
    cases ts with
    | nil => cases hnext
    | cons token rest =>
      cases hnext
      cases next with
      | literal text => exact hno text rest rfl
      | field letter width => exact hmerges

private theorem map_eq_ok {x : Except PatternFlaw (List Token)} {f : List Token → List Token} {ts : List Token}
    (h : x.map f = .ok ts) : ∃ us, x = .ok us ∧ f us = ts := by
  cases x with
  | error e => cases h
  | ok us => exact ⟨us, rfl, Except.ok.inj h⟩

private theorem wellFormed_tokensFrom (h : tokensFrom quotes cs = .ok ts) : WellFormed ts := by
  fun_induction tokensFrom quotes cs generalizing ts with
  | case1 => cases h
  | case2 =>
    cases h
    trivial
  | case3 =>
    cases h
    trivial
  | case4 => cases h
  | case5 quotes rest ih =>
    obtain ⟨us, hus, rfl⟩ := map_eq_ok h
    exact wellFormed_putChar (ih hus)
  | case6 quotes d rest hd ih => exact ih h
  | case7 => cases h
  | case8 quotes c cs hc hletter letter hfind ih =>
    obtain ⟨us, hus, rfl⟩ := map_eq_ok h
    exact wellFormed_putLetter (ih hus)
  | case9 quotes c cs hc hletter ih =>
    obtain ⟨us, hus, rfl⟩ := map_eq_ok h
    exact wellFormed_putChar (ih hus)

/-- Every pattern that is read spells a row of tokens that are told apart. -/
theorem wellFormed_tokens {pattern : List Char} (h : tokens pattern = .ok ts) : WellFormed ts :=
  wellFormed_tokensFrom h

/-! ### Flaws -/

/-- Whether quotes are open after a character: every apostrophe opens or closes them. -/
def quotesAfterChar (quotes : Bool) (c : Char) : Bool :=
  if c = apostrophe then !quotes else quotes

/-- Whether quotes are open after a text. -/
def quotesAfter (quotes : Bool) (cs : List Char) : Bool :=
  cs.foldl quotesAfterChar quotes

/-- An ASCII letter that stands for no field, met outside quotes after the characters in front of it. -/
def Strays (quotes : Bool) (front : List Char) (c : Char) : Prop :=
  quotesAfter quotes front = false ∧ c.isAlpha = true ∧ Letter.ofChar? c = none

/-- No character of the text strays. -/
def NoneStrays (quotes : Bool) (cs : List Char) : Prop :=
  ∀ front c rest, cs = front ++ c :: rest → ¬Strays quotes front c

/-- What is wrong with a text that begins outside or inside quotes: its first letter that strays, or that quotes are open at
its end if no letter strays. -/
def PatternFlaw.LiesIn (quotes : Bool) (cs : List Char) : PatternFlaw → Prop
  | .openQuote => NoneStrays quotes cs ∧ quotesAfter quotes cs = true
  | .unknownLetter c => ∃ front rest, cs = front ++ c :: rest ∧ NoneStrays quotes front ∧ Strays quotes front c

theorem noneStrays_nil (quotes : Bool) : NoneStrays quotes [] := by
  intro front c rest h
  simp at h

theorem noneStrays_cons_iff :
    NoneStrays quotes (c :: cs) ↔ ¬Strays quotes [] c ∧ NoneStrays (quotesAfterChar quotes c) cs := by
  constructor
  · intro h
    refine ⟨h [] c cs rfl, ?_⟩
    intro front d rest hcs
    exact h (c :: front) d rest (by rw [hcs, List.cons_append])
  · rintro ⟨hhead, htail⟩ front d rest hcs
    cases front with
    | nil =>
      cases hcs
      exact hhead
    | cons e front =>
      cases hcs
      exact htail front d rest rfl

theorem PatternFlaw.liesIn_nil_iff {flaw : PatternFlaw} :
    flaw.LiesIn quotes [] ↔ quotes = true ∧ flaw = .openQuote := by
  cases flaw <;> simp [LiesIn, noneStrays_nil, quotesAfter]

/-- A flaw lies behind a character that does not stray. -/
theorem PatternFlaw.liesIn_cons_iff {flaw : PatternFlaw} (h : ¬Strays quotes [] c) :
    flaw.LiesIn quotes (c :: cs) ↔ flaw.LiesIn (quotesAfterChar quotes c) cs := by
  cases flaw with
  | openQuote =>
    simp only [LiesIn, noneStrays_cons_iff, h, not_false_eq_true, true_and]
    exact Iff.rfl
  | unknownLetter d =>
    constructor
    · rintro ⟨front, rest, hcs, hnone, hstrays⟩
      cases front with
      | nil =>
        cases hcs
        exact absurd hstrays h
      | cons e front =>
        cases hcs
        exact ⟨front, rest, rfl, (noneStrays_cons_iff.1 hnone).2, hstrays⟩
    · rintro ⟨front, rest, rfl, hnone, hstrays⟩
      exact ⟨c :: front, rest, rfl, noneStrays_cons_iff.2 ⟨h, hnone⟩, hstrays⟩

theorem PatternFlaw.liesIn_cons_of_strays {flaw : PatternFlaw} (h : Strays quotes [] c) :
    flaw.LiesIn quotes (c :: cs) ↔ flaw = .unknownLetter c := by
  cases flaw with
  | openQuote =>
    constructor
    · rintro ⟨hnone, -⟩
      exact absurd h (hnone [] c cs rfl)
    · intro e
      cases e
  | unknownLetter d =>
    constructor
    · rintro ⟨front, rest, hcs, hnone, hstrays⟩
      cases front with
      | nil =>
        cases hcs
        rfl
      | cons e front =>
        cases hcs
        exact absurd h (hnone [] c front rfl)
    · intro e
      cases e
      exact ⟨[], cs, rfl, noneStrays_nil quotes, h⟩

theorem PatternFlaw.liesIn_apostrophe_iff {flaw : PatternFlaw} :
    flaw.LiesIn quotes (apostrophe :: cs) ↔ flaw.LiesIn (!quotes) cs := by
  have h : ¬Strays quotes [] apostrophe := by
    rintro ⟨-, halpha, -⟩
    exact ne_apostrophe_of_isAlpha halpha rfl
  simp [liesIn_cons_iff h, quotesAfterChar]

theorem PatternFlaw.liesIn_char_iff {flaw : PatternFlaw} (hc : c ≠ apostrophe) (h : ¬Strays quotes [] c) :
    flaw.LiesIn quotes (c :: cs) ↔ flaw.LiesIn quotes cs := by
  simp [liesIn_cons_iff h, quotesAfterChar, hc]

private theorem map_eq_error_iff {x : Except PatternFlaw (List Token)} {f : List Token → List Token} {flaw : PatternFlaw} :
    x.map f = .error flaw ↔ x = .error flaw := by
  cases x <;> simp [Except.map]

/-- Reading from outside or inside quotes fails with a flaw exactly if the flaw lies in the text. -/
theorem tokensFrom_eq_error_iff {flaw : PatternFlaw} :
    tokensFrom quotes cs = .error flaw ↔ flaw.LiesIn quotes cs := by
  -- along the reading: what does not stray is passed, and the quotes that are open after it are those of the rest
  fun_induction tokensFrom quotes cs with
  | case1 => simp [PatternFlaw.liesIn_nil_iff, eq_comm]
  | case2 quotes hquotes => simp [PatternFlaw.liesIn_nil_iff, hquotes]
  | case3 => simp [PatternFlaw.liesIn_apostrophe_iff, PatternFlaw.liesIn_nil_iff]
  | case4 quotes hquotes => simp [PatternFlaw.liesIn_apostrophe_iff, PatternFlaw.liesIn_nil_iff, hquotes, eq_comm]
  | case5 quotes rest ih =>
    rw [map_eq_error_iff, ih, PatternFlaw.liesIn_apostrophe_iff, PatternFlaw.liesIn_apostrophe_iff, Bool.not_not]
  | case6 quotes d rest hd ih => rw [ih, PatternFlaw.liesIn_apostrophe_iff]
  | case7 quotes c cs hc hletter hfind =>
    have hstrays : Strays quotes [] c := by
      simp only [Bool.and_eq_true, Bool.not_eq_true'] at hletter
      exact ⟨hletter.1, hletter.2, hfind⟩
    rw [PatternFlaw.liesIn_cons_of_strays hstrays]
    simp [eq_comm]
  | case8 quotes c cs hc hletter letter hfind ih =>
    have hstrays : ¬Strays quotes [] c := by
      rintro ⟨-, -, hno⟩
      rw [hfind] at hno
      cases hno
    rw [map_eq_error_iff, ih, PatternFlaw.liesIn_char_iff hc hstrays]
  | case9 quotes c cs hc hletter ih =>
    have hstrays : ¬Strays quotes [] c := by
      rintro ⟨hquotes, halpha, -⟩
      have hq : quotes = false := hquotes
      simp [hq, halpha] at hletter
    rw [map_eq_error_iff, ih, PatternFlaw.liesIn_char_iff hc hstrays]

/-- A flaw lies in a text exactly if a letter strays in it or quotes are open at its end. -/
theorem PatternFlaw.exists_liesIn_iff :
    (∃ flaw : PatternFlaw, flaw.LiesIn quotes cs) ↔
      (∃ front c rest, cs = front ++ c :: rest ∧ Strays quotes front c) ∨ quotesAfter quotes cs = true := by
  induction cs generalizing quotes with
  | nil => simp [liesIn_nil_iff, quotesAfter]
  | cons c cs ih =>
    by_cases h : Strays quotes [] c
    · simp only [liesIn_cons_of_strays h, exists_eq, true_iff]
      exact .inl ⟨[], c, cs, rfl, h⟩
    · simp only [liesIn_cons_iff h, ih]
      apply or_congr _ Iff.rfl
      constructor
      · rintro ⟨front, d, rest, rfl, hd⟩
        exact ⟨c :: front, d, rest, rfl, hd⟩
      · rintro ⟨front, d, rest, hcs, hd⟩
        cases front with
        | nil =>
          cases hcs
          exact absurd hd h
        | cons e front =>
          cases hcs
          exact ⟨front, d, rest, rfl, hd⟩

/-! ### Patterns and their tokens -/

/-- Reading a pattern undoes spelling it, reads nothing else, and fails exactly at a letter outside quotes that stands for no
field, or if quotes are open at the end. -/
theorem tokens_undoes_spelling :
    (∀ ts, WellFormed ts → tokens (spelling ts) = .ok ts) ∧
    (∀ pattern ts, tokens pattern = .ok ts → WellFormed ts) ∧
    ∀ pattern, (∃ flaw, tokens pattern = .error flaw) ↔
      (∃ front c rest, pattern = front ++ c :: rest ∧ Strays false front c) ∨ quotesAfter false pattern = true := by
  refine ⟨fun ts h => tokens_spelling h, fun pattern ts h => wellFormed_tokens h, ?_⟩
  intro pattern
  rw [← PatternFlaw.exists_liesIn_iff]
  exact exists_congr fun flaw => tokensFrom_eq_error_iff

theorem tokens_undoes_spelling_oClock :
    WellFormed [.field .hour 2, .literal "'o'clock".toList, .field .year 4] ∧
      spelling [.field .hour 2, .literal "'o'clock".toList, .field .year 4] = "HH'''o''clock'yyyy".toList ∧
      tokens (spelling [.field .hour 2, .literal "'o'clock".toList, .field .year 4]) =
        .ok [.field .hour 2, .literal "'o'clock".toList, .field .year 4] :=
  ⟨by decide, by decide, tokens_undoes_spelling.1 _ (by decide)⟩

end CivilTime
