import CivilTime.Proofs.Pattern.Spaced
import CivilTime.Proofs.RoundTrip
import CivilTime.Proofs.Zone.ShortNames
import CivilTime.Timestamp

/-!
# Texts that end with the name of a zone

A short name in a date text stands for one zone, whatever zone wrote it (`zoneOfShortName?`). So the text of a local time
with the short name of a region is read back as that local time in the zone of the name
(`DatePattern.read_write_shortName`): it is the instant that was written exactly if the two offsets are the same.
Names that are not known and offsets in digits are refused.
-/

namespace CivilTime

/-- The zone that a short name at the end of a date text stands for; digits after a sign stand for none. -/
def zoneOfShortName? (db : Database) (name : String) : Option Zone :=
  if name.toList.head?.any fun c => c = '+' || c = '-' then none else readZone? true name db

variable {p : DatePattern} {m : Moment} {body : List Token} {width : Nat}

/-! ### Reading -/

/-- The text of numbers and a short name is cut into what its tokens wrote, or is not cut if the name begins with a sign. -/
private theorem pieces?_write_shortName (hlenient : p.lenient = true) (hm : m.time.isSupported = true)
    (htokens : p.tokens = body ++ [.field .zoneName width]) (hwidth : width ≤ 3) (hspaced : Spaced body)
    (hw : WidthsFit body) {c : Char} {cs : List Char} (hname : m.observance.name.toList = c :: cs)
    (hshort : IsShortName (c :: cs)) :
    p.pieces? (p.write m).toList =
      if c ∈ ['+', '-'] then none
      else some ((body.map fun token => (token.write p.names m).toList) ++ [c :: cs]) := by
  have hzone : (Token.write p.names m (.field .zoneName width)).toList = c :: cs := by
    change (if width < 4 then m.observance.name else m.zone.id).toList = c :: cs
    rw [if_pos (by omega), hname]
  have hshapes : tokenShapes p.names true [.field .zoneName width] = [zoneShape .zoneName] := rfl
  have hcuts := cuts_shortName hshort
  rw [DatePattern.toList_write, List.flatMap_def, htokens, List.map_append, List.flatten_append, List.map_singleton,
    List.flatten_singleton, hzone]
  unfold DatePattern.pieces?
  rw [hlenient, htokens, cutAll_spaced hm hspaced hw, hshapes]
  split at hcuts
  · rename_i hsign
    rw [if_pos hsign, cutAll_cons, hcuts]
    rfl
  · rename_i hsign
    have hprefer : AllPrefer true [zoneShape .zoneName] [c :: cs] := ⟨hcuts, trivial⟩
    have hlast := @cutAll_eq_of_allPrefer true (fun rest => true || rest.isEmpty) rfl _ _ hprefer
    rw [List.flatten_singleton] at hlast
    rw [if_neg hsign, hlast]
    rfl

private theorem settle_withZone (r : OpenReading) (zone : Zone) (lenient : Bool) :
    ({ r with fields.zone := some zone } : OpenReading).settle lenient =
      { r.settle lenient with zone := some zone } := by
  unfold OpenReading.settle
  dsimp only
  split
  · rfl
  · split <;> rfl

/-- What is read of a text of numbers and a short name: the parts of the moment that the numbers wrote and the zone that the
name stands for. If it stands for none, the text is refused. -/
theorem DatePattern.read_write_shortName (hlenient : p.lenient = true) (hd : p.names.Distinct)
    (hm : m.time.isSupported = true) (ho : m.offset.natAbs ≤ 64800)
    (htokens : p.tokens = body ++ [.field .zoneName width]) (hwidth : width ≤ 3) (hspaced : Spaced body)
    (hw : WidthsFit body) (hshort : IsShortName m.observance.name.toList) (today : Date) (db : Database) :
    match zoneOfShortName? db m.observance.name with
    | some zone => p.read today (p.write m) db = .ok { (p.readBack today m body).settle true with zone := some zone }
    | none => ∃ why, p.read today (p.write m) db = .error (.malformedDate (p.write m) p.text why) := by
  cases hname : m.observance.name.toList with
  | nil =>
    rw [hname] at hshort
    exact hshort.elim
  | cons c cs =>
    rw [hname] at hshort
    have hpieces := pieces?_write_shortName hlenient hm htokens hwidth hspaced hw hname hshort
    have hsigned : ((c :: cs).head?.any fun c => c = '+' || c = '-') = decide (c ∈ ['+', '-']) := by simp
    unfold read zoneOfShortName?
    rw [hpieces, hname, hsigned]
    by_cases hsign : c ∈ ['+', '-']
    · rw [if_pos hsign, if_pos (decide_eq_true hsign)]
      exact ⟨_, rfl⟩
    · rw [if_neg hsign, if_neg (by simpa using hsign)]
      -- the numbers are taken in as they were written, and the name is the last step
      have hfold : (body.zip _).foldlM (p.take today (p.write m) db) (p.readBack today m []) = _ :=
        foldlM_take hd hm ho hw hspaced.zonesAreOffsets []
      have hempty : p.readBack today m [] = .empty := rfl
      rw [hempty, List.nil_append] at hfold
      have hzip : p.tokens.zip ((body.map fun token => (token.write p.names m).toList) ++ [c :: cs]) =
          body.zip (body.map fun token => (token.write p.names m).toList) ++ [(.field .zoneName width, c :: cs)] := by
        rw [htokens, List.zip_append (by simp)]
        rfl
      have hraw : String.ofList (c :: cs) = m.observance.name := by rw [← hname, String.ofList_toList]
      have hlast : ∀ r, p.take today (p.write m) db r (.field .zoneName width, c :: cs) =
          match readZone? true m.observance.name db with
          | some zone => .ok { r with fields.zone := some zone }
          | none => .error (.malformedDate (p.write m) p.text (.unknownZone (c :: cs))) := by
        intro r
        rw [← hraw, ← hlenient]
        rfl
      dsimp only
      rw [hzip, List.foldlM_append, hfold, hlenient]
      change match readZone? true m.observance.name db with
        | some zone => (p.take today (p.write m) db _ (.field .zoneName width, c :: cs) >>= _) >>= _ = _
        | none => ∃ why, (p.take today (p.write m) db _ (.field .zoneName width, c :: cs) >>= _) >>= _ = _
      rw [hlast]
      cases readZone? true m.observance.name db with
      | some zone => exact congrArg Except.ok (settle_withZone _ zone true)
      | none => exact ⟨_, rfl⟩

/-- The parts that the numbers wrote make the local time of the moment, whatever zone the name stands for. -/
theorem DatePattern.localTime?_settle_readBack {today : Date} (hlenient : p.lenient = true)
    (hm : m.time.isSupported = true) (ho : m.offset.natAbs ≤ 64800) (hnames : NamesTime body)
    (hyear : ∀ letter, lastField? [.year, .extendedYear] body = some (letter, 2) →
      today.year - 80 ≤ m.time.date.year ∧ m.time.date.year < today.year + 20) (zone : Option Zone) :
    ({ (p.readBack today m body).settle true with zone } : Reading).localTime? = some m.time := by
  have htells := @tells_settle_readBack body p today m ho true fun letter width hlast => by
    rw [hlenient]
    apply yearBack_lenient (LocalTime.year_bounds hm).1
    rintro rfl
    exact hyear letter hlast
  have hhour := @hour_settle_readBack body p today m true (hnames.hourTold true)
  exact Reading.localTime?_eq hm (htells.year hnames.year) (htells.month hnames.month) (htells.day hnames.day) hhour
    (htells.minute hnames.minute) (htells.second hnames.second) (htells.millisecond hnames.millisecond)

/-! ### Regions -/

variable {s : Surroundings} {f : DateFormat} {pattern zoneName : Option String} {millis : Int} {name : String}
  {history : History}

/-- What a region observes as it writes an instant goes by a short name. -/
theorem DateFormat.isShortName_of_shownZone (hdb : s.database.IsSeparated) (hshort : s.database.HasShortNames)
    (hf : DateFormat.lenient s pattern zoneName = .ok f) (hzone : f.shownZone s = .ok (.region name history))
    (hm : Moment.ofMillis? millis (.region name history) = some m) : IsShortName m.observance.name.toList := by
  obtain ⟨n, hn⟩ := DateFormat.exists_resolveZone?_of_shownZone hf hzone
  have hmem := (Zone.region name history).atUtc_mem (millis / 1000)
  rw [← Moment.observance_of_ofMillis? (separated_of_resolveZone? hdb hn) hm] at hmem
  rcases resolveZone?_cases hn with ⟨_, _, he, -⟩ | ⟨_, _, he, hhistory⟩
  · cases he
  · cases he
    exact hshort name history hhistory _ hmem

/-- An instant that a region writes as numbers and a short name is read back in the zone that the name stands for: it is moved
by the difference of the two offsets, and so it is the same instant exactly if they are equal. If the name stands for no
zone, the text is refused. -/
theorem readMillis_writeMillis_shortName (hdb : s.database.IsSeparated) (hoffsets : s.database.HasReadableOffsets)
    (hshort : s.database.HasShortNames) (hf : DateFormat.lenient s pattern zoneName = .ok f)
    (htokens : f.pattern.tokens = body ++ [.field .zoneName width]) (hwidth : width ≤ 3) (hspaced : Spaced body)
    (hw : WidthsFit body) (hnames : NamesTime body) (hzone : f.shownZone s = .ok (.region name history))
    (hm : Moment.ofMillis? millis (.region name history) = some m)
    (hyear : ∀ letter, lastField? [.year, .extendedYear] body = some (letter, 2) →
      s.today.year - 80 ≤ m.time.date.year ∧ m.time.date.year < s.today.year + 20) :
    ∃ text, writeMillis s millis pattern zoneName = .ok text ∧
      (∀ zone, zoneOfShortName? s.database m.observance.name = some zone → ∃ result,
        readMillis s (some text) pattern zoneName = .ok (some result) ∧
        result = millis + 1000 * (m.offset - (Moment.firstPass zone m.time).offset) ∧
        (result = millis ↔ m.offset = (Moment.firstPass zone m.time).offset)) ∧
      (zoneOfShortName? s.database m.observance.name = none → ∃ why,
        readMillis s (some text) pattern zoneName = .error (.malformedDate text f.pattern.text why)) := by
  have hseparated := DateFormat.separated_of_shownZone hdb hf hzone
  have ho := DateFormat.natAbs_offset_le hdb hoffsets hf hzone hm
  have hname := DateFormat.isShortName_of_shownZone hdb hshort hf hzone hm
  have hmillis := Moment.toMillis_of_ofMillis? hseparated hm
  obtain ⟨⟨-, htime⟩, -⟩ := Moment.ofMillis?_eq_some_iff.1 hm
  obtain ⟨-, hlocale, hlenient, -⟩ := DateFormat.of_bind hf
  have hdistinct : f.pattern.names.Distinct := by
    rw [hlocale]
    exact Names.distinct_of _
  have hread := DatePattern.read_write_shortName hlenient hdistinct htime ho htokens hwidth hspaced hw hname s.today
    s.database
  have hwrite : writeMillis s millis pattern zoneName = .ok (f.pattern.write m) :=
    bind_eq_ok_iff.2 ⟨f, hf, DateFormat.write_eq hzone hm⟩
  refine ⟨f.pattern.write m, hwrite, fun zone hzone => ?_, fun hnone => ?_⟩
  · rw [hzone] at hread
    have hlocal := DatePattern.localTime?_settle_readBack hlenient htime ho hnames hyear (some zone)
    have hinstant := DateFormat.readInstant_of_read hread (DateFormat.readingZone_of_or rfl s)
    rw [hlocal] at hinstant
    -- both instants are the local time less an offset
    have hmoved : (Moment.firstPass zone m.time).toMillis =
        millis + 1000 * (m.offset - (Moment.firstPass zone m.time).offset) := by
      unfold Moment.toMillis at hmillis ⊢
      change m.time.millis - 1000 * (Moment.firstPass zone m.time).offset = _
      omega
    refine ⟨_, bind_eq_ok_iff.2 ⟨f, hf, bind_eq_ok_iff.2 ⟨_, hinstant, rfl⟩⟩, hmoved, ?_⟩
    rw [hmoved]
    omega
  · rw [hnone] at hread
    obtain ⟨why, hread⟩ := hread
    exact ⟨why, bind_eq_error_iff.2 (.inr ⟨f, hf, bind_eq_error_iff.2 (.inl (bind_eq_error_iff.2 (.inl hread)))⟩)⟩

/-- The second half past one on 7 November 2021 in New York is read back from its short name. -/
theorem readMillis_writeMillis_shortName_newYork :
    ∃ text, writeMillis .bare 1636266600000 (some "yyyy-MM-dd HH:mm:ss.SSS z")
        (some "America/New_York") = .ok text ∧
      readMillis .bare (some text) (some "yyyy-MM-dd HH:mm:ss.SSS z")
        (some "America/New_York") = .ok (some 1636266600000) := by
  have hf : DateFormat.lenient .bare (some "yyyy-MM-dd HH:mm:ss.SSS z")
      (some "America/New_York") = .ok
        ⟨⟨"yyyy-MM-dd HH:mm:ss.SSS z", some "America/New_York"⟩, "en",
          some (.region "America/New_York" Database.newYork),
          ⟨"yyyy-MM-dd HH:mm:ss.SSS z",
            [.field .year 4, .literal ['-'], .field .month 2, .literal ['-'], .field .day 2, .literal [' '],
              .field .hour 2, .literal [':'], .field .minute 2, .literal [':'], .field .second 2, .literal ['.'],
              .field .millisecond 3, .literal [' '], .field .zoneName 1], .english, true⟩⟩ :=
    eq_ok_of_toOption (by decide +kernel)
  have hm : Moment.ofMillis? 1636266600000 (.region "America/New_York" Database.newYork) =
      some ⟨.region "America/New_York" Database.newYork, .of ⟨2021, 11, 7⟩ 1 30 0 0, true⟩ := by
    decide +kernel
  have hzone : zoneOfShortName? .listed (Moment.observance
      ⟨.region "America/New_York" Database.newYork, .of ⟨2021, 11, 7⟩ 1 30 0 0, true⟩).name =
        some (.fixed (-18000) "EST") := by
    decide +kernel
  have hspaced : Spaced [.field .year 4, .literal ['-'], .field .month 2, .literal ['-'], .field .day 2, .literal [' '],
      .field .hour 2, .literal [':'], .field .minute 2, .literal [':'], .field .second 2, .literal ['.'],
      .field .millisecond 3, .literal [' ']] := by
    repeat' constructor
  obtain ⟨text, hwrite, hread, -⟩ := readMillis_writeMillis_shortName Database.isSound_listed.separated
    Database.hasReadableOffsets_listed Database.hasShortNames_listed hf rfl (by decide) hspaced (by decide)
    ⟨by decide, by decide, by decide, by decide, by decide, by decide, by decide, by decide⟩ rfl hm (by
      intro letter hlast
      cases hlast)
  obtain ⟨result, hread, -, hsame⟩ := hread _ hzone
  refine ⟨text, hwrite, ?_⟩
  rw [hread, hsame.2 (by decide +kernel)]

/-- China has the short name CST in common with the middle of North America, which is what it stands for in date text: the
text of the year 1970's first instant is read fourteen hours after it. -/
theorem readMillis_writeMillis_shanghai :
    writeMillis .bare 0 (some "yyyy-MM-dd HH:mm:ss.SSS z") (some "Asia/Shanghai") =
        .ok "1970-01-01 08:00:00.000 CST" ∧
      readMillis .bare (some "1970-01-01 08:00:00.000 CST")
        (some "yyyy-MM-dd HH:mm:ss.SSS z") (some "Asia/Shanghai") = .ok (some 50400000) :=
  ⟨eq_ok_of_toOption (by decide +kernel), eq_ok_of_toOption (by decide +kernel)⟩

end CivilTime
