import CivilTime.Proofs.Outcome
import CivilTime.Pattern.Reading

/-!
# Texts that are read alike

A field takes four things in of its piece: the length, the number, the lower-case form and the zone. Pieces that have these in
common are alike (`Alike`), and if the pieces of one text are like those of another, the two are read as the same fields or are
both not read (`DatePattern.toOption_read_congr`).
-/

namespace CivilTime

/-- Pieces that mean the same to every field, where the regions are those of a database. -/
structure Alike (db : Database) (anyCase : Bool) (raw raw' : List Char) : Prop where
  length : raw'.length = raw.length
  number : numeralValue raw' = numeralValue raw
  name : lowerText raw' = lowerText raw
  zone : readZone? anyCase (String.ofList raw') db = readZone? anyCase (String.ofList raw) db

variable {p : DatePattern} {db : Database} {today : Date} {text text' : String} {letter : Letter}
  {width : Nat} {raw raw' : List Char}

theorem Alike.refl (db : Database) (anyCase : Bool) (raw : List Char) :
    Alike db anyCase raw raw :=
  ⟨rfl, rfl, rfl, rfl⟩

theorem toOption_placeOfName (h : lowerText raw' = lowerText raw) (full short : List String) :
    (placeOfName raw' full short).toOption = (placeOfName raw full short).toOption := by
  unfold placeOfName indexOfName?
  rw [h]
  split <;> rfl

theorem toOption_fieldNumber (h : numeralValue raw' = numeralValue raw) (lenient : Bool) (letter : Letter) :
    (fieldNumber lenient letter raw').toOption = (fieldNumber lenient letter raw).toOption := by
  unfold fieldNumber
  rw [h]
  dsimp only
  split
  · split <;> rfl
  · rfl

theorem OpenReading.takeNumber_congr (h : raw'.length = raw.length) (r : OpenReading) (lenient : Bool) (today : Date)
    (letter : Letter) (width value : Nat) :
    r.takeNumber lenient today letter width raw' value = r.takeNumber lenient today letter width raw value := by
  unfold takeNumber
  rw [h]

/-- Alike pieces are taken in with the same result. -/
theorem DatePattern.toOption_takeField_congr (h : Alike db p.lenient raw raw') (r : OpenReading) :
    (p.takeField today text' db r letter width raw').toOption =
      (p.takeField today text db r letter width raw).toOption := by
  unfold takeField
  by_cases hnum : letter.isNumeric width = true
  · rw [if_pos hnum, if_pos hnum, h.length]
    split
    · rfl
    · have hnumber := toOption_fieldNumber h.number p.lenient letter
      cases hread : fieldNumber p.lenient letter raw with
      | error why =>
        cases hread' : fieldNumber p.lenient letter raw' with
        | error why' => rfl
        | ok value' =>
          rw [hread, hread'] at hnumber
          cases hnumber
      | ok value =>
        cases hread' : fieldNumber p.lenient letter raw' with
        | error why' =>
          rw [hread, hread'] at hnumber
          cases hnumber
        | ok value' =>
          rw [hread, hread'] at hnumber
          cases hnumber
          exact congrArg some (OpenReading.takeNumber_congr h.length r p.lenient today letter width value)
  · rw [if_neg hnum, if_neg hnum]
    have hplace := toOption_placeOfName h.name
    cases letter with
    | month | standaloneMonth | weekday =>
      dsimp only
      rw [toOption_bind, toOption_bind, hplace]
    | halfDay =>
      dsimp only
      rw [h.name]
    | zoneName | zoneId | offset | isoOffset | isoDigits | gmtOffset =>
      dsimp only
      rw [h.zone]
      split <;> rfl
    | _ => exact absurd rfl hnum

/-- Texts with alike pieces are read as the same fields, or neither of them is read. -/
theorem DatePattern.toOption_read_congr {change : List Char → List Char}
    (hpieces : p.pieces? text'.toList = (p.pieces? text.toList).map (List.map change))
    (halike : ∀ raw, Alike db p.lenient raw (change raw)) :
    (p.read today text' db).toOption = (p.read today text db).toOption := by
  cases hfound : p.pieces? text.toList with
  | none =>
    rw [hfound] at hpieces
    unfold read
    rw [hpieces, hfound]
    rfl
  | some pieces =>
    rw [hfound] at hpieces
    rw [read_of_pieces? hpieces, read_of_pieces? hfound, toOption_bind, toOption_bind, List.zip_map_right]
    congr 1
    refine toOption_foldlM_map (fun entry hmem r => ?_) OpenReading.empty
    obtain ⟨token, raw⟩ := entry
    cases token with
    | literal text => rfl
    | field letter width => exact toOption_takeField_congr (halike raw) r

end CivilTime
