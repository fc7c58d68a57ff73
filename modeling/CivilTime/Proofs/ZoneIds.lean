import CivilTime.Proofs.Pattern.Taken
import CivilTime.Proofs.Zone.RegionNames
import CivilTime.Proofs.ZoneLetterCase

/-!
# Ids of zones read back

A pattern of the letters VV writes the id of a zone. Read back, exactly or in any letter case, the id stands for a zone with the
same offset at every instant, with two exceptions (`DatePattern.read_write_zoneId`). An id of a region that is an abbreviation as
well, as CET is, stands for the fixed offset of the abbreviation. And an id that is an offset by itself, as +05:30 is, is not
admitted where the letters stand. The ids of fixed offsets are few or written in one form (`resolveZone?_fixed_cases`). The names of
regions are assumed to have the form of names in date text (`Database.HasReadableNames`), so that they are taken as a whole. Only
GMT0 is taken for another zone, which is UTC as well.
-/

namespace CivilTime

variable {db : Database}

/-! ### Reading an id -/

/-- The zone that a text stands for, where the pattern asks for the id of a zone and for nothing else. -/
def zoneOfId? (db : Database) (anyCase : Bool) (text : String) : Option Zone :=
  match cutAll anyCase (fun rest => anyCase || rest.isEmpty) [zoneShape .zoneId] text.toList with
  | some [raw] => readZone? anyCase (String.ofList raw) db
  | _ => none

theorem zoneOfId?_of_prefers {anyCase : Bool} {text : String}
    (h : (zoneShape .zoneId).Prefers anyCase text.toList []) : zoneOfId? db anyCase text = readZone? anyCase text db := by
  have hcut := @cutAll_eq_of_allPrefer anyCase (fun rest => anyCase || rest.isEmpty) (by simp) [zoneShape .zoneId]
    [text.toList] ⟨h, trivial⟩
  rw [List.flatten_cons, List.flatten_nil, List.append_nil] at hcut
  unfold zoneOfId?
  rw [hcut]
  dsimp only
  rw [String.ofList_toList]

namespace DatePattern

variable {p : DatePattern} {today : Date} {text : String} {width : Nat}

theorem read_zoneId {zone : Zone} (htokens : p.tokens = [.field .zoneId width])
    (h : zoneOfId? db p.lenient text = some zone) :
    p.read today text db = .ok { Reading.empty with zone := some zone } := by
  unfold zoneOfId? at h
  have hpieces : p.pieces? text.toList =
      cutAll p.lenient (fun rest => p.lenient || rest.isEmpty) [zoneShape .zoneId] text.toList := by
    unfold pieces?
    rw [htokens]
    rfl
  unfold read
  rw [hpieces]
  split at h
  · rename_i raw hraw
    rw [hraw, htokens]
    have htake : p.takeField today text db .empty .zoneId width raw =
        .ok { OpenReading.empty with fields.zone := some zone } :=
      takeField_of_takes (.zone (by decide) h)
    change (p.takeField today text db .empty .zoneId width raw >>= _) >>= _ = _
    rw [htake]
    rfl
  · cases h

end DatePattern

/-! ### Fixed offsets -/

theorem readZone?_of_readOffset? {text : String} {o : NamedOffset} (h : readOffset? text = some o) (anyCase : Bool)
    (db : Database) : readZone? anyCase text db = some (.ofOffset o) := by
  rw [readZone?_of_isListed (by rw [isListed, h]; rfl)]
  unfold readExactZone?
  rw [h]

theorem readZone?_of_abbreviation {text : String} {offset : Int} (hno : readOffset? text = none)
    (h : abbreviations.lookup text = some offset) (anyCase : Bool) (db : Database) :
    readZone? anyCase text db = some (.fixed offset text) := by
  rw [readZone?_of_isListed (by rw [isListed, h, Option.isSome_some, Bool.or_true])]
  unfold readExactZone?
  rw [hno, h]

/-- The ids of fixed offsets. -/
theorem resolveZone?_fixed_cases {name id : String} {offset : Int} (h : resolveZone? name db = some (.fixed offset id)) :
    (id, offset) ∈ [("Z", 0), ("GMT", 0), ("UTC", 0), ("EST", -18000), ("MST", -25200), ("HST", -36000)] ∨
      (offset.natAbs ≤ 64800 ∧ offset % 60 = 0 ∧ id = gmtOffset true offset) ∨
      ∃ c cs, id.toList = c :: cs ∧ (c = '+' ∨ c = '-') := by
  unfold resolveZone? at h
  split at h
  · rename_i o ho
    cases h
    rcases readOffset?_cases ho with hzero | ⟨⟨hle, hwhole⟩, hname | hname⟩
    · have hall : ∀ o ∈ [(⟨0, "Z"⟩ : NamedOffset), ⟨0, "GMT"⟩, ⟨0, "UTC"⟩],
          (o.name, o.offset) ∈ [("Z", 0), ("GMT", 0), ("UTC", 0), ("EST", -18000), ("MST", -25200), ("HST", -36000)] := by
        decide
      exact .inl (hall o hzero)
    · exact .inr (.inl ⟨hle, hwhole, hname⟩)
    · rcases offsetId_cases o.offset with ⟨hzero, he⟩ | hsign
      · refine .inl ?_
        rw [hname, he, hzero]
        exact List.mem_cons_self
      · exact .inr (.inr (hname ▸ hsign))
  · split at h
    · rename_i offset ho
      cases h
      have hall : ∀ entry ∈ shortOffsetNames,
          entry ∈ [("Z", 0), ("GMT", 0), ("UTC", 0), ("EST", -18000), ("MST", -25200), ("HST", -36000)] := by
        decide
      exact .inl (hall _ (mem_of_lookup ho))
    · obtain ⟨history, -, he⟩ := Option.map_eq_some_iff.1 h
      cases he

/-- The id of a fixed offset stands for that offset, if it does not begin with a sign. -/
theorem zoneOfId?_fixed {name id : String} {offset : Int} (h : resolveZone? name db = some (.fixed offset id))
    (hsign : ∀ c ∈ id.toList.head?, c ≠ '+' ∧ c ≠ '-') (anyCase : Bool) :
    ∃ id', zoneOfId? db anyCase id = some (.fixed offset id') := by
  rcases resolveZone?_fixed_cases h with hlisted | ⟨hle, hwhole, rfl⟩ | ⟨c, cs, hcs, hc⟩
  · have hall : ∀ entry ∈ [("Z", (0 : Int)), ("GMT", 0), ("UTC", 0), ("EST", -18000), ("MST", -25200), ("HST", -36000)],
        (∀ anyCase ∈ [true, false],
          ((zoneShape .zoneId).cuts anyCase (entry.1.toList ++ [])).head? = some (entry.1.toList.length, [])) ∧
        (readOffset? entry.1 = some ⟨entry.2, entry.1⟩ ∨
          readOffset? entry.1 = none ∧ abbreviations.lookup entry.1 = some entry.2) := by
      decide +kernel
    obtain ⟨hwhole, hread⟩ := hall (id, offset) hlisted
    refine ⟨id, ?_⟩
    rw [zoneOfId?_of_prefers (hwhole anyCase (by cases anyCase <;> decide))]
    rcases hread with hoffset | ⟨hno, habbr⟩
    · exact readZone?_of_readOffset? hoffset anyCase db
    · exact readZone?_of_abbreviation hno habbr anyCase db
  · obtain ⟨id', hread⟩ := readZone?_gmtOffset hle true anyCase db
    refine ⟨id', ?_⟩
    rw [zoneOfId?_of_prefers (prefers_zoneId_gmtOffset hle (fun c hc => by cases hc) true), hread,
      Int.mul_ediv_cancel' (Int.dvd_of_emod_eq_zero hwhole)]
  · rw [hcs] at hsign
    have := hsign c rfl
    rcases hc with rfl | rfl
    · exact absurd rfl this.1
    · exact absurd rfl this.2

/-! ### Regions -/

/-- What reading relies on in the names of regions. They have the form of names in date text, and none turns into an offset or an
abbreviation by being put in capitals. Of those that begin with a name of the zero meridian, in any letter case, only GMT0 is no
offset by itself, and it keeps to the meridian. -/
structure Database.HasReadableNames (db : Database) : Prop where
  form : ∀ name history, db.history? name = some history → regionShape.Matches false name.toList
  capitals : db.KeepsCapitals
  meridian : ∀ name history, db.history? name = some history →
    (∀ w ∈ meridianNames, restAfter? true w name.toList = none) ∨ (readOffset? name).isSome = true ∨
      name = "GMT0" ∧ ∀ o ∈ history.observances, o.offset = 0

theorem Database.hasReadableNames_listed : listed.HasReadableNames where
  form name history hn := by
    have hall : (listedRegions.all fun region =>
        (regionShape.cuts false region.1.toList).any fun cut => cut.2.isEmpty) = true := by
      decide +kernel
    obtain ⟨⟨n, rest⟩, hcut, hrest⟩ := List.any_eq_true.1 (of_all_listedRegions hall hn)
    obtain ⟨piece, -, he, hmatches⟩ := Shape.mem_cuts_iff.1 hcut
    dsimp only at he hrest
    rwa [he, List.isEmpty_iff.1 hrest, List.append_nil]
  capitals := keepsCapitals_listed
  meridian name history hn := by
    have hall : (listedRegions.all fun region =>
        decide ((∀ w ∈ meridianNames, restAfter? true w region.1.toList = none) ∨ (readOffset? region.1).isSome = true ∨
          region.1 = "GMT0" ∧ ∀ o ∈ region.2.observances, o.offset = 0)) = true := by
      decide +kernel
    exact of_decide_eq_true (of_all_listedRegions hall hn)

/-- A region that a caller can name is in the database, and its name is no offset. -/
theorem resolveZone?_region {name id : String} {history : History}
    (h : resolveZone? name db = some (.region id history)) : db.history? id = some history ∧ readOffset? id = none := by
  have hshort : ∀ entry ∈ shortRegionNames, readOffset? entry.2 = none := by decide +kernel
  unfold resolveZone? at h
  split at h
  · cases h
  · rename_i hno
    split at h
    · cases h
    · obtain ⟨history', hh, he⟩ := Option.map_eq_some_iff.1 h
      cases he
      refine ⟨hh, ?_⟩
      unfold regionName
      cases hlookup : shortRegionNames.lookup name with
      | none => exact hno
      | some region => exact hshort _ (mem_of_lookup hlookup)

/-- What begins with a word letter by letter begins with it in any letter case. -/
private theorem restAfter?_eq_none {w cs : List Char} (h : restAfter? true w cs = none) (anyCase : Bool) :
    restAfter? anyCase w cs = none := by
  cases anyCase with
  | true => exact h
  | false =>
    cases hrest : restAfter? false w cs with
    | none => rfl
    | some rest =>
      obtain ⟨piece, -, rfl, hsame⟩ := restAfter?_eq_some_iff.1 hrest
      rw [sameTexts_false.1 hsame, restAfter?_append] at h
      cases h

/-- A name that begins with no name of the zero meridian is taken as a whole where the pattern asks for an id. -/
private theorem prefers_zoneId_region {cs : List Char} (hform : regionShape.Matches false cs)
    (hmeridian : ∀ w ∈ meridianNames, restAfter? true w cs = none) (anyCase : Bool) :
    (zoneShape .zoneId).Prefers anyCase cs [] := by
  refine Shape.prefers_second (Shape.cuts_seq_nil (Shape.cuts_words_nil fun w hw => ?_)) (prefers_region hform)
  rw [List.append_nil]
  exact restAfter?_eq_none (hmeridian w hw) anyCase

/-- An id that is an abbreviation stands for the offset of the abbreviation. -/
theorem zoneOfId?_abbreviation {name : String} {offset : Int} (hno : readOffset? name = none)
    (h : abbreviations.lookup name = some offset) (anyCase : Bool) (db : Database) :
    zoneOfId? db anyCase name = some (.fixed offset name) := by
  have hall : ∀ entry ∈ abbreviations, ∀ anyCase ∈ [true, false],
      ((zoneShape .zoneId).cuts anyCase (entry.1.toList ++ [])).head? = some (entry.1.toList.length, []) := by
    decide +kernel
  rw [zoneOfId?_of_prefers (hall _ (mem_of_lookup h) anyCase (by cases anyCase <;> decide))]
  exact readZone?_of_abbreviation hno h anyCase db

/-- The id GMT0 is taken as a whole exactly, and up to the digit in any letter case. -/
private theorem zoneOfId?_gmt (db : Database) : zoneOfId? db true "GMT0" = some (.fixed 0 "GMT") ∧
    zoneOfId? db false "GMT0" = readZone? false "GMT0" db := by
  have hfront : cutAll true (fun rest => true || rest.isEmpty) [zoneShape .zoneId] "GMT0".toList =
      some ["GMT".toList] := by
    decide +kernel
  have hwhole : cutAll false (fun rest => false || rest.isEmpty) [zoneShape .zoneId] "GMT0".toList =
      some ["GMT0".toList] := by
    decide +kernel
  have hgmt : readOffset? "GMT" = some ⟨0, "GMT"⟩ := by decide +kernel
  unfold zoneOfId?
  rw [hfront, hwhole]
  exact ⟨readZone?_of_readOffset? hgmt true db, rfl⟩

/-- The id of a region that is no abbreviation stands for a zone with the offsets of the region. -/
theorem zoneOfId?_region {name : String} {history : History} (hdb : db.HasReadableNames)
    (hn : db.history? name = some history) (hno : readOffset? name = none) (habbr : abbreviations.lookup name = none)
    (anyCase : Bool) :
    ∃ zone, zoneOfId? db anyCase name = some zone ∧
      ∀ second, (zone.atUtc second).1.offset = (history.atUtc second).1.offset := by
  have hexact : readExactZone? db name = some (.region name history) := by
    unfold readExactZone? Database.zone?
    rw [hno, habbr, hn]
    rfl
  rcases hdb.meridian name history hn with hmeridian | hoffset | ⟨rfl, hzero⟩
  · refine ⟨.region name history, ?_, fun second => rfl⟩
    rw [zoneOfId?_of_prefers (prefers_zoneId_region (hdb.form name history hn) hmeridian anyCase)]
    exact readZone?_of_readExactZone? hdb.capitals hexact anyCase
  · rw [hno] at hoffset
    cases hoffset
  · obtain ⟨hfront, hwhole⟩ := zoneOfId?_gmt db
    cases anyCase with
    | true => exact ⟨_, hfront, fun second => (hzero _ ((Zone.region "GMT0" history).atUtc_mem second)).symm⟩
    | false => exact ⟨_, hwhole.trans hexact, fun second => rfl⟩

/-- The region CET has summer time, but its id is read as the abbreviation of a fixed offset. -/
example : zoneOfId? .listed false "CET" = some (.fixed 3600 "CET") := by decide +kernel

/-! ### Writing and reading back -/

/-- The id that the letters VV write of a zone, if it does not begin with a sign, is read as a zone with the same offset at every
instant, but for the id of a region that is an abbreviation as well: that is read as the offset of the abbreviation. -/
theorem DatePattern.read_write_zoneId {name : String} {names : Names} {lenient : Bool} {p : DatePattern} {m : Moment}
    (hdb : db.HasReadableNames) (hname : resolveZone? name db = some m.zone)
    (hp : DatePattern.of "VV" names lenient = .ok p) (hsign : ∀ c ∈ m.zone.id.toList.head?, c ≠ '+' ∧ c ≠ '-')
    (today : Date) :
    ∃ zone, p.read today (p.write m) db = .ok { Reading.empty with zone := some zone } ∧
      ((∃ history offset, m.zone = .region m.zone.id history ∧ abbreviations.lookup m.zone.id = some offset ∧
          zone = .fixed offset m.zone.id) ∨
        ∀ second, (zone.atUtc second).1.offset = (m.zone.atUtc second).1.offset) := by
  have htokens : CivilTime.tokens "VV".toList = .ok [.field .zoneId 2] := eq_ok_of_toOption (by decide +kernel)
  have hpattern : p = ⟨"VV", [.field .zoneId 2], names, lenient⟩ := by
    unfold DatePattern.of at hp
    rw [htokens] at hp
    exact (Except.ok.inj hp).symm
  have hwrite : p.write m = m.zone.id := by
    rw [hpattern]
    exact String.empty_append
  have hread : ∀ zone, zoneOfId? db p.lenient m.zone.id = some zone →
      p.read today (p.write m) db = .ok { Reading.empty with zone := some zone } := by
    intro zone hzone
    rw [hwrite]
    exact read_zoneId (by rw [hpattern]) hzone
  cases hz : m.zone with
  | fixed offset id =>
    rw [hz] at hname hsign hread
    obtain ⟨id', hid⟩ := zoneOfId?_fixed hname hsign p.lenient
    exact ⟨_, hread _ hid, .inr fun second => rfl⟩
  | region id history =>
    rw [hz] at hname hread
    obtain ⟨hhistory, hno⟩ := resolveZone?_region hname
    cases habbr : abbreviations.lookup id with
    | some offset =>
      exact ⟨_, hread _ (zoneOfId?_abbreviation hno habbr p.lenient db), .inl ⟨history, offset, rfl, habbr, rfl⟩⟩
    | none =>
      obtain ⟨zone, hzone, hsame⟩ := zoneOfId?_region hdb hhistory hno habbr p.lenient
      exact ⟨zone, hread _ hzone, .inr hsame⟩

/-- New York is read back as itself, from a text in any letter case. -/
theorem DatePattern.read_write_zoneId_newYork :
    ∃ p zone, DatePattern.of "VV" .english true = .ok p ∧
      p.read ⟨2021, 1, 1⟩ (p.write (.firstPass (.region "America/New_York" Database.newYork) (.of ⟨2021, 7, 1⟩ 0 0 0 0)))
        .listed = .ok { Reading.empty with zone := some zone } ∧
      ∀ second, (zone.atUtc second).1.offset = (Database.newYork.atUtc second).1.offset := by
  have hp : DatePattern.of "VV" .english true = .ok ⟨"VV", [.field .zoneId 2], .english, true⟩ :=
    eq_ok_of_toOption (by decide +kernel)
  have hsign : ∀ c ∈ "America/New_York".toList.head?, c ≠ '+' ∧ c ≠ '-' := by
    intro c hc
    obtain rfl : 'A' = c := Option.some.inj hc
    decide
  obtain ⟨zone, hread, hzone⟩ := @read_write_zoneId .listed "America/New_York" .english true _
    (.firstPass (.region "America/New_York" Database.newYork) (.of ⟨2021, 7, 1⟩ 0 0 0 0)) Database.hasReadableNames_listed
    (by decide +kernel) hp hsign ⟨2021, 1, 1⟩
  refine ⟨_, zone, hp, hread, ?_⟩
  rcases hzone with ⟨history, offset, -, habbr, -⟩ | hsame
  · have hno : abbreviations.lookup "America/New_York" = none := by decide +kernel
    cases hno.symm.trans habbr
  · exact hsame

/-- The region CET is read back as an hour ahead of UTC throughout the year, and the offset +05:30 is not read back. -/
theorem DatePattern.not_read_write_zoneId :
    (∃ p zone, DatePattern.of "VV" .english true = .ok p ∧
      resolveZone? "CET" .listed = some (.region "CET" Database.cet) ∧
      p.read ⟨2021, 1, 1⟩ (p.write (.firstPass (.region "CET" Database.cet) (.of ⟨2021, 7, 1⟩ 0 0 0 0))) .listed =
        .ok { Reading.empty with zone := some zone } ∧
      (zone.atUtc 1625097600).1.offset ≠ ((Zone.region "CET" Database.cet).atUtc 1625097600).1.offset) ∧
    ∃ p, DatePattern.of "VV" .english true = .ok p ∧ resolveZone? "+05:30" .listed = some (.fixed 19800 "+05:30") ∧
      p.read ⟨2021, 1, 1⟩ (p.write (.firstPass (.fixed 19800 "+05:30") (.of ⟨2021, 7, 1⟩ 0 0 0 0))) .listed =
        .error (.malformedDate "+05:30" "VV" .form) := by
  have hp : DatePattern.of "VV" .english true = .ok ⟨"VV", [.field .zoneId 2], .english, true⟩ :=
    eq_ok_of_toOption (by decide +kernel)
  refine ⟨⟨_, .fixed 3600 "CET", hp, by decide +kernel, eq_ok_of_toOption (by decide +kernel), by decide +kernel⟩,
    _, hp, by decide +kernel, eq_error_of_failure? (by decide +kernel)⟩

end CivilTime
