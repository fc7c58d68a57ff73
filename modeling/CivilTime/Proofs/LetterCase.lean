import CivilTime.Proofs.Pattern.Alike
import CivilTime.Proofs.Refusals
import CivilTime.Proofs.Text.Carried
import CivilTime.Proofs.ZoneLetterCase

/-!
# Texts in any letter case

Reading leniently is blind to letter case: a text is read like the same text in small letters
(`DatePattern.toOption_read_toLower`). The search cuts both into the same pieces, up to letter case, because it sees the
representatives of characters only. A piece in small letters has the length, the number and the lower-case form of the piece, and it
names the same zone if all names of regions are on offer and no two of them differ in letter case only. So two texts in ASCII that
differ in letter case only are read as the same fields, or are both refused (`DatePattern.read_anyCase`).
-/

namespace CivilTime

variable {p : DatePattern} {db : Database} {today : Date} {text text' : String}

theorem alike_map_toLower (hapart : db.ToldApart) (hoffers : db.OffersAll) (raw : List Char) :
    Alike db true raw (raw.map Char.toLower) where
  length := List.length_map Char.toLower
  number := numeralValue_map_toLower raw
  name := lowerText_map_toLower raw
  zone := by
    apply readZone?_of_sameForms hapart hoffers
    · rw [String.toList_ofList, String.toList_ofList, upperText_map_toLower]
    · rw [String.toList_ofList, String.toList_ofList, lowerText_map_toLower]

namespace DatePattern

/-- A text in small letters is cut where the text is. -/
theorem pieces?_map_toLower (hlenient : p.lenient = true) (cs : List Char) :
    p.pieces? (cs.map Char.toLower) = (p.pieces? cs).map (List.map (List.map Char.toLower)) := by
  have hseen : ∀ c : Char, seenAs true c.toLower = seenAs true c := foldCase_toLower
  unfold pieces?
  rw [hlenient]
  exact cutAll_map hseen (fun _ => rfl) _ cs

/-- A text in small letters is read leniently as the text is. -/
theorem toOption_read_toLower (hlenient : p.lenient = true) (hapart : db.ToldApart) (hoffers : db.OffersAll)
    (today : Date) (text : String) : (p.read today text.toLower db).toOption = (p.read today text db).toOption := by
  have hlower : text.toLower.toList = text.toList.map Char.toLower := String.toList_map
  apply toOption_read_congr (by rw [hlower, pieces?_map_toLower hlenient])
  rw [hlenient]
  exact alike_map_toLower hapart hoffers

/-- A text in ASCII that is not read is malformed: it holds none of the letters that blur a name. -/
theorem exists_malformed_of_ascii {pattern locale : String} (hp : DatePattern.of pattern (.of locale) true = .ok p)
    (hwidths : ∀ letter width, Token.field letter width ∈ p.tokens → width ≤ longestNumber)
    (hascii : ∀ c ∈ text.toList, c.toNat < 0x80) {e : Error} (h : p.read today text db = .error e) :
    ∃ why, e = .malformedDate text p.text why := by
  have hn : p.names.Proper := by
    obtain ⟨ts, -, rfl⟩ := of_eq_ok_iff.1 hp
    exact Names.proper_of locale
  rcases read_eq_error hn hwidths h with hmalformed | ⟨pieces, _, _, raw, hpieces, hmem, ⟨-, -, c, hc, hblurred⟩, -⟩
  · exact hmalformed
  · obtain ⟨-, rest, htext, -⟩ := cutAll_sound hpieces
    have hsmall := hascii c (by
      rw [htext]
      exact List.mem_append_left _ (List.mem_flatten.2 ⟨raw, (List.of_mem_zip hmem).2, hc⟩))
    have hbig : (blurredLetters.all fun c => 0x80 ≤ c.toNat) = true := by decide
    exact absurd hsmall (Nat.not_lt.2 (of_decide_eq_true (List.all_eq_true.1 hbig c hblurred)))

end DatePattern

end CivilTime
