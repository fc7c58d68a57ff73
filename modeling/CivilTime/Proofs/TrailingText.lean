import CivilTime.Proofs.Pattern.Alike
import CivilTime.Proofs.Pattern.Pieces
import CivilTime.Proofs.Pattern.Spaced
import CivilTime.Proofs.RoundTrip
import CivilTime.Proofs.Text.Carried

/-!
# Trailing text

A lenient pattern reads the front of a text and ignores the rest. Where it is separable, more text changes nothing, if it begins
with no character of zones (`DatePattern.read_append`). The pieces in front of the last one end where their tokens end, before
the piece that follows, so there is no other way to cut them off (`Token.append_inj_of_matches`). The last piece may be
shorter than the text allows; but a field cannot go on with the text that follows, so it is cut in the same ways
(`Shape.Within.carries_append`), and a literal in one way only.
-/

namespace CivilTime

variable {accepts : List Char → Bool} {shape : Shape} {shapes : List Shape} {cs suffix : List Char}
  {pieces : List (List Char)}

/-- If a text can be cut on after one piece of the shape only, with or without a suffix, then the suffix does not change
how it is cut. -/
private theorem cutAll_append_of_forced
    (hforced : ∀ p q r t, shape.Matches true p → shape.Matches true q → (cutAll true accepts shapes r).isSome = true →
      (cutAll true accepts shapes t).isSome = true → p ++ r = q ++ t → p = q)
    (hrest : ∀ cs pieces, cutAll true accepts shapes cs = some pieces →
      cutAll true accepts shapes (cs ++ suffix) = some pieces)
    (h : cutAll true accepts (shape :: shapes) cs = some pieces) :
    cutAll true accepts (shape :: shapes) (cs ++ suffix) = some pieces := by
  obtain ⟨hmatch, left, rfl, hleft⟩ := cutAll_sound h
  cases pieces with
  | nil => exact absurd hmatch id
  | cons piece pieces =>
    have hothers : ∀ r, (cutAll true accepts shapes r).isSome = true → ∀ other t, piece ++ r = other ++ t →
        shape.Matches true other → other ≠ piece → cutAll true accepts shapes t = none := by
      intro r hr other t he hother hne
      rw [← Option.not_isSome_iff_eq_none]
      exact fun ht => hne (hforced piece other r t hmatch.1 hother hr ht he).symm
    have hcut : cutAll true accepts shapes (pieces.flatten ++ left) = some pieces := by
      have hsome : (cutAll true accepts shapes (pieces.flatten ++ left)).isSome = true :=
        cutAll_isSome_iff.2 ⟨pieces, left, hmatch.2, rfl, hleft⟩
      rw [List.flatten_cons, List.append_assoc, cutAll_cons_of_forced hmatch.1 (hothers _ hsome)] at h
      obtain ⟨found, hfound, he⟩ := Option.map_eq_some_iff.1 h
      rw [hfound, (List.cons.inj he).2]
    have hlong : cutAll true accepts shapes (pieces.flatten ++ (left ++ suffix)) = some pieces := by
      rw [← List.append_assoc]
      exact hrest _ _ hcut
    rw [List.flatten_cons, List.append_assoc, List.append_assoc,
      cutAll_cons_of_forced hmatch.1 (hothers _ (by rw [hlong]; rfl)), hlong]
    rfl

/-- A shape that carries a suffix cuts the same first piece off a text with it. -/
private theorem cutAll_append_of_carries (hcarries : shape.Carries true (· ++ suffix))
    (haccepts : ∀ rest, accepts rest = true) (h : cutAll true accepts [shape] cs = some pieces) :
    cutAll true accepts [shape] (cs ++ suffix) = some pieces := by
  have hall : ∀ rest, cutAll true accepts [] rest = some [] := fun rest => by rw [cutAll_nil, if_pos (haccepts rest)]
  rw [cutAll_cons] at h ⊢
  rw [hcarries cs]
  cases hcuts : shape.cuts true cs with
  | nil =>
    rw [hcuts] at h
    cases h
  | cons cut more =>
    obtain ⟨n, rest⟩ := cut
    obtain ⟨piece, rfl, rfl, -⟩ := Shape.mem_cuts_iff.1 (hcuts ▸ List.mem_cons_self : (n, rest) ∈ shape.cuts true cs)
    rw [hcuts] at h
    simpa [hall] using h

variable {names : Names} {tokens : List Token}

/-- Text after the end that begins with no character of zones does not change how a separable pattern cuts a text. -/
theorem cutAll_append (hn : names.Proper) (hoccupies : ∀ token ∈ tokens, token.Occupies) (hsep : Separable tokens)
    (hsuffix : ∀ c ∈ suffix.head?, ¬IsZoneChar (seenAs true c)) (haccepts : ∀ rest, accepts rest = true)
    (h : cutAll true accepts (tokenShapes names true tokens) cs = some pieces) :
    cutAll true accepts (tokenShapes names true tokens) (cs ++ suffix) = some pieces := by
  induction tokens generalizing cs pieces with
  | nil =>
    rw [tokenShapes, cutAll_nil, if_pos (haccepts _)] at h ⊢
    exact h
  | cons token tokens ih =>
    have hrest : ∀ cs pieces, cutAll true accepts (tokenShapes names true tokens) cs = some pieces →
        cutAll true accepts (tokenShapes names true tokens) (cs ++ suffix) = some pieces := fun cs pieces =>
      ih (fun token ht => hoccupies token (List.mem_cons_of_mem _ ht)) hsep.2
    cases token with
    | literal text =>
      exact cutAll_append_of_forced (fun p q r t hp hq _ _ he => (append_inj_of_word hp hq he).1) hrest h
    | field letter width =>
      cases tokens with
      | nil =>
        refine cutAll_append_of_carries ?_ haccepts h
        refine (fieldShape_within hn true letter width false).carries_append (fun c hc => hc.seenAs) fun c hc hspells => ?_
        exact hsuffix c hc hspells.isZoneChar
      | cons next tokens =>
        refine cutAll_append_of_forced (fun p q r t hp hq hr ht he => ?_) hrest h
        have hbegins : ∀ r, (cutAll true accepts (tokenShapes names true (next :: tokens)) r).isSome = true →
            ∀ c ∈ r.head?, ∃ token ∈ some next, token.BeginsAs true c := by
          intro r hr c hc
          obtain ⟨pieces, left, hall, rfl, -⟩ := cutAll_isSome_iff.1 hr
          obtain ⟨d, ds, hflatten, hd⟩ := begins_of_allMatch hn
            (hoccupies next (List.mem_cons_of_mem _ List.mem_cons_self)) hall
          rw [hflatten] at hc
          obtain rfl : d = c := Option.some.inj hc
          exact ⟨next, rfl, hd⟩
        exact (Token.append_inj_of_matches hn hsep.1 hp hq (hbegins r hr) (hbegins t ht) he).1

namespace DatePattern

variable {p : DatePattern} {db : Database} {today : Date} {text after : String} {reading : Reading}

/-- What a separable pattern reads leniently off a text it reads off the text with more after it that begins with no ASCII letter
in any case, no digit and none of the other characters of zones. -/
theorem read_append {pattern locale : String} (hp : DatePattern.of pattern (.of locale) true = .ok p)
    (hsep : Separable p.tokens)
    (hafter : ∀ c ∈ after.toList.head?,
      (foldCase c).isAlpha = false ∧ isDigit c = false ∧ c ∉ ['+', '-', ':', '/', '_'])
    (h : p.read today text db = .ok reading) : p.read today (text ++ after) db = .ok reading := by
  obtain ⟨hlenient, hn, hoccupies⟩ : p.lenient = true ∧ p.names.Proper ∧ ∀ token ∈ p.tokens, token.Occupies := by
    obtain ⟨ts, hts, rfl⟩ := of_eq_ok_iff.1 hp
    exact ⟨rfl, Names.proper_of locale, occupies_tokens hts⟩
  have hends : ∀ c ∈ after.toList.head?, ¬IsZoneChar (seenAs true c) := fun c hc =>
    not_isZoneChar_seenAs (hafter c hc).1 (hafter c hc).2.1 (hafter c hc).2.2 true
  cases hpieces : p.pieces? text.toList with
  | none =>
    unfold read at h
    rw [hpieces] at h
    cases h
  | some pieces =>
    have hpieces' : p.pieces? (text ++ after).toList = some pieces := by
      unfold pieces? at hpieces ⊢
      rw [hlenient] at hpieces ⊢
      rw [String.toList_append]
      exact cutAll_append hn hoccupies hsep hends (fun _ => rfl) hpieces
    have hsame : p.pieces? (text ++ after).toList = (p.pieces? text.toList).map (List.map id) := by
      rw [hpieces, hpieces', Option.map_some, List.map_id]
    apply eq_ok_of_toOption
    rw [toOption_read_congr hsame (Alike.refl db p.lenient), h]
    rfl

/-- A remark in brackets after the name of a region is ignored. -/
theorem read_append_paris :
    ∃ p, DatePattern.of "yyyy-MM-dd z" (.of "en") true = .ok p ∧
      p.read ⟨2021, 1, 1⟩ ("2021-07-01 Europe/Paris" ++ "(CEST)") .listed =
        .ok ⟨some 2021, some 7, some 1, none, none, none, none, none, some (.region "Europe/Paris" Database.paris)⟩ := by
  have hp : DatePattern.of "yyyy-MM-dd z" (.of "en") true = .ok ⟨"yyyy-MM-dd z",
      [.field .year 4, .literal ['-'], .field .month 2, .literal ['-'], .field .day 2, .literal [' '],
        .field .zoneName 1], .english, true⟩ :=
    eq_ok_of_toOption (by decide +kernel)
  refine ⟨_, hp, read_append hp (by decide +kernel) ?_ (eq_ok_of_toOption (by decide +kernel))⟩
  intro c hc
  obtain rfl : '(' = c := Option.some.inj hc
  decide +kernel

end DatePattern

end CivilTime
