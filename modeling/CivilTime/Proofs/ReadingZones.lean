import CivilTime.Proofs.Pattern.Taken
import CivilTime.Proofs.RoundTrip

/-!
# The zones of texts

A format is unbound only where its pattern is one of zone letters alone, and such a pattern reads only texts that name a zone. So
there is always a zone that decides over a text, that of the text or else that of the format (`DateFormat.exists_zone_of_read`),
and the system's zone is never asked for. It is a zone that can be named (`DateFormat.zone_cases_of_read`).
-/

namespace CivilTime

/-! ### Patterns of zone letters -/

private theorem exists_field_putLetter (letter : Letter) (tokens : List Token) :
    ∃ width, Token.field letter width ∈ putLetter letter tokens := by
  unfold putLetter
  split
  · rename_i next width rest
    split
    · exact ⟨width + 1, List.mem_cons_self⟩
    · exact ⟨1, List.mem_cons_self⟩
  · exact ⟨1, List.mem_cons_self⟩

/-- A pattern of zone letters alone names a zone. -/
theorem named_of_isZonePattern {text : String} {ts : List Token} (h : isZonePattern text = true)
    (ht : tokens text.toList = .ok ts) : Named zoneLetters ts := by
  have hletters : ("XxZzVO".toList.all fun c => c ≠ apostrophe ∧ c.isAlpha = true ∧
      ∃ letter ∈ zoneLetters, Letter.ofChar? c = some letter) = true := by
    decide
  unfold isZonePattern at h
  simp only [Bool.and_eq_true, decide_eq_true_eq] at h
  obtain ⟨⟨hlen, -⟩, hall⟩ := h
  cases hcs : text.toList with
  | nil =>
    rw [hcs] at hlen
    exact absurd hlen (by decide)
  | cons c cs =>
    rw [hcs] at hall ht
    obtain ⟨hquote, halpha, letter, hletter, hfind⟩ := of_decide_eq_true (List.all_eq_true.1 hletters c
      (List.contains_iff_mem.1 (List.all_eq_true.1 hall c List.mem_cons_self)))
    unfold tokens tokensFrom at ht
    rw [if_neg hquote, halpha, if_pos (by decide), hfind] at ht
    cases hrest : tokensFrom false cs with
    | error flaw =>
      rw [hrest] at ht
      cases ht
    | ok rest =>
      rw [hrest] at ht
      cases ht
      obtain ⟨width, hmem⟩ := exists_field_putLetter letter rest
      exact ⟨letter, hletter, width, hmem⟩

/-! ### The zone that decides -/

namespace DateFormat

variable {db : Database} {f : DateFormat} {spec : FormatSpec} {locale : String} {lenient : Bool} {today : Date}
  {text : String} {r : Reading} {zone : Zone}

/-- A format is unbound only where the caller names no zone, and the pattern nothing else. -/
theorem of_zone_eq_none (hf : bind spec locale lenient db = .ok f) (hnone : f.zone = none) :
    spec.zoneName = none ∧ isZonePattern spec.pattern = true := by
  obtain ⟨-, -, -, hbound⟩ := of_bind hf
  unfold FormatSpec.boundZone at hbound
  split at hbound
  · rename_i name _
    cases hname : resolveZone name db with
    | error e =>
      rw [hname] at hbound
      cases hbound
    | ok zone =>
      rw [hname, hnone] at hbound
      cases hbound
  · rename_i hno
    refine ⟨hno, ?_⟩
    cases hpattern : isZonePattern spec.pattern with
    | true => rfl
    | false =>
      rw [hpattern, hnone] at hbound
      cases hbound

/-- A format finds a zone in every text that it reads, or it is bound to one. -/
theorem exists_zone_of_read (hf : bind spec locale lenient db = .ok f) (hr : f.pattern.read today text db = .ok r) :
    ∃ zone, r.zone.or f.zone = some zone := by
  cases hzone : f.zone with
  | some zone =>
    rw [← Option.isSome_iff_exists, Option.isSome_or, Option.isSome_some, Bool.or_true]
  | none =>
    have hnamed := named_of_isZonePattern (of_zone_eq_none hf hzone).2 (of_bind hf).1
    rw [Option.or_none]
    exact Option.isSome_iff_exists.1 ((DatePattern.covers_read hr).zone.2 hnamed)

/-- The zone that decides over a text is one that stands in texts, or one that a caller can name. -/
theorem zone_cases_of_read (hf : bind spec locale lenient db = .ok f) (hr : f.pattern.read today text db = .ok r)
    (hzone : r.zone.or f.zone = some zone) :
    (∃ raw, readZone? f.pattern.lenient raw db = some zone) ∨ ∃ name, resolveZone? name db = some zone := by
  rcases Option.or_eq_some_iff.1 hzone with hread | ⟨-, hbound⟩
  · exact .inl (DatePattern.exists_readZone?_of_read hr hread)
  · obtain ⟨-, -, -, hspec⟩ := of_bind hf
    rw [hbound] at hspec
    exact .inr (FormatSpec.exists_resolveZone?_of_boundZone hspec)

theorem separated_of_read (hdb : db.IsSeparated) (hf : bind spec locale lenient db = .ok f)
    (hr : f.pattern.read today text db = .ok r) (hzone : r.zone.or f.zone = some zone) : zone.Separated := by
  rcases zone_cases_of_read hf hr hzone with ⟨raw, h⟩ | ⟨name, h⟩
  · exact separated_of_readZone? hdb h
  · exact separated_of_resolveZone? hdb h

theorem bounded_of_read (hdb : db.IsBounded) (hf : bind spec locale lenient db = .ok f)
    (hr : f.pattern.read today text db = .ok r) (hzone : r.zone.or f.zone = some zone) : zone.Bounded := by
  rcases zone_cases_of_read hf hr hzone with ⟨raw, h⟩ | ⟨name, h⟩
  · exact bounded_of_readZone? hdb h
  · exact bounded_of_resolveZone? hdb h

end DateFormat

end CivilTime
