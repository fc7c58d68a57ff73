import CivilTime.Proofs.Zone.Listed
import CivilTime.Proofs.Zone.OffsetForms

/-!
# Zones in any letter case

Reading a zone in any letter case adds to exact reading and changes none of it (`readZone?_anyCase`), if the database turns no
name into an offset or an abbreviation by putting it in capitals (`Database.KeepsCapitals`). Offsets and abbreviations are written
in capitals, so they are their own upper-case forms (`isUpper_of_isListed`). The name of a region is put in another letter case
only where its upper-case form is an offset or an abbreviation, and then the name is one itself. So each text that is read
exactly is its own canonical form, and each canonical form that is read has the upper-case form or the lower-case form of the
text. Conversely the two forms decide which zone is read, if the database tells its names apart by more than letter case and
has all of them on offer (`readZone?_of_sameForms`).
-/

namespace CivilTime

variable {text : String} {cs : List Char} {z : Zone} {db : Database}

/-- The text is an offset or an abbreviation. -/
def isListed (text : String) : Bool :=
  (readOffset? text).isSome || (abbreviations.lookup text).isSome

/-! ### Upper-case forms -/

theorem IsCapital.isUpper (h : IsCapital cs) : ∀ c ∈ cs, IsUpper c :=
  fun c hc => .inl (h c hc)

/-- Signed clocks consist of signs, colons and digits. -/
theorem SignedClock.isUpper {loose : Bool} (clock : SignedClock loose) : ∀ c ∈ clock.text, IsUpper c := by
  intro c hc
  simp only [SignedClock.text, List.mem_cons, List.mem_append] at hc
  rcases hc with rfl | hc | hc | hc
  · rcases clock.isSign with h | h <;> rw [h] <;> decide
  · exact .inr (clock.digits c (List.mem_append_left _ hc))
  · have hcolon : ∀ colon ∈ [[], [':']], IsCapital colon := by decide
    rcases clock.minuteDigits with ⟨-, h⟩ | ⟨-, h⟩
    · exact (hcolon _ h).isUpper c hc
    · simp [h] at hc
  · exact .inr (clock.digits c (List.mem_append_right _ hc))

/-- The texts of offsets are their own upper-case forms. -/
theorem WritesOffset.isUpper {offset : Int} (h : WritesOffset cs offset) : ∀ c ∈ cs, IsUpper c := by
  have hnames : ∀ name ∈ ['Z'] :: meridianNames, IsCapital name := by decide
  cases h with
  | zero hmem => exact (hnames cs hmem).isUpper
  | bare clock hrange => exact clock.isUpper
  | prefixed clock hname hrange =>
    exact List.forall_mem_append.2 ⟨(hnames _ (List.mem_cons_of_mem _ hname)).isUpper, clock.isUpper⟩

/-- Offsets and abbreviations are their own upper-case forms. -/
theorem isUpper_of_isListed (h : isListed text = true) : ∀ c ∈ text.toList, IsUpper c := by
  simp only [isListed, Bool.or_eq_true, Option.isSome_iff_exists] at h
  rcases h with ⟨o, ho⟩ | ⟨offset, ho⟩
  · exact (exists_readOffset?_iff.1 ⟨o.name, ho⟩).isUpper
  · have habbr : ∀ entry ∈ abbreviations, IsCapital entry.1.toList := by decide +kernel
    exact (habbr _ (mem_of_lookup ho)).isUpper

private theorem ofList_upperText (h : isListed text = true) : String.ofList (upperText text.toList) = text := by
  rw [upperText_eq_self (isUpper_of_isListed h), String.ofList_toList]

/-! ### Canonical forms -/

/-- Each name of a region is an offset or an abbreviation if its upper-case form is one. -/
def Database.KeepsCapitals (db : Database) : Prop :=
  ∀ name history, db.history? name = some history →
    isListed (String.ofList (upperText name.toList)) = true → isListed name = true

theorem Database.keepsCapitals_listed : listed.KeepsCapitals := by
  intro name history hn hcapitals
  have hall : (listedRegions.all fun region =>
      !isListed (String.ofList (upperText region.1.toList)) || isListed region.1) = true := by
    decide +kernel
  have hkeeps := of_all_listedRegions hall hn
  rwa [hcapitals] at hkeeps

/-- The canonical form is the upper-case form if that is an offset or an abbreviation, and otherwise it has the lower-case form
of the text. -/
theorem canonicalZoneText_cases (db : Database) (text : String) :
    isListed (String.ofList (upperText text.toList)) = true ∧
        canonicalZoneText db text = String.ofList (upperText text.toList) ∨
      isListed (String.ofList (upperText text.toList)) = false ∧
        lowerText (canonicalZoneText db text).toList = lowerText text.toList := by
  unfold canonicalZoneText
  dsimp only
  split
  · rename_i h
    exact .inl ⟨h, rfl⟩
  · rename_i h
    rw [Bool.not_eq_true] at h
    refine .inr ⟨h, ?_⟩
    split
    · rfl
    · cases hfind : db.available.find? fun name => lowerText name.toList == lowerText text.toList with
      | some name =>
        have hsame := List.find?_some hfind
        exact beq_iff_eq.1 hsame
      | none => rfl

/-- Abbreviations are put in capitals. -/
example : canonicalZoneText .listed "pst" = "PST" := by decide +kernel

/-- What is read exactly is an offset, an abbreviation or a region. -/
private theorem isListed_or_of_readExactZone? (h : readExactZone? db text = some z) :
    isListed text = true ∨ ∃ history, db.history? text = some history := by
  unfold readExactZone? at h
  split at h
  · rename_i o ho
    simp [isListed, ho]
  · split at h
    · rename_i offset ho
      simp [isListed, ho]
    · obtain ⟨history, hh, -⟩ := Option.map_eq_some_iff.1 h
      exact .inr ⟨history, hh⟩

/-- Offsets and abbreviations are their own canonical forms. -/
private theorem canonicalZoneText_of_isListed (h : isListed text = true) (db : Database) :
    canonicalZoneText db text = text := by
  have hcapitals : isListed (String.ofList (upperText text.toList)) = true := by rwa [ofList_upperText h]
  exact (if_pos hcapitals).trans (ofList_upperText h)

/-- Offsets and abbreviations are read alike exactly and in any letter case. -/
theorem readZone?_of_isListed (h : isListed text = true) (anyCase : Bool) (db : Database) :
    readZone? anyCase text db = readExactZone? db text := by
  unfold readZone?
  rw [canonicalZoneText_of_isListed h, ite_self]

/-- What is read exactly is its own canonical form. -/
private theorem canonicalZoneText_of_readExactZone? (hkeeps : db.KeepsCapitals)
    (h : readExactZone? db text = some z) : canonicalZoneText db text = text := by
  by_cases hlisted : isListed text = true
  · exact canonicalZoneText_of_isListed hlisted db
  · obtain ⟨history, hh⟩ := (isListed_or_of_readExactZone? h).resolve_left hlisted
    have hcapitals : ¬isListed (String.ofList (upperText text.toList)) = true := fun hcapitals =>
      hlisted (hkeeps text history hh hcapitals)
    refine (if_neg hcapitals).trans (if_pos ?_)
    rw [hh]
    rfl

/-- What is read exactly is read alike in any letter case. -/
theorem readZone?_of_readExactZone? (hkeeps : db.KeepsCapitals) (h : readExactZone? db text = some z)
    (anyCase : Bool) : readZone? anyCase text db = some z := by
  unfold readZone?
  rw [canonicalZoneText_of_readExactZone? hkeeps h, ite_self, h]

/-- Reading a zone in any letter case extends exact reading, and finds only zones that are read exactly off a text with the same
upper-case or lower-case form. Where it is the upper-case form, all of it is ASCII or digits. -/
theorem readZone?_anyCase (hkeeps : db.KeepsCapitals) :
    (∀ text z, readZone? false text db = some z → readZone? true text db = some z) ∧
    ∀ text z, readZone? true text db = some z → ∃ text', readZone? false text' db = some z ∧
      (upperText text'.toList = upperText text.toList ∧ (∀ c ∈ text'.toList, IsUpper c) ∨
        lowerText text'.toList = lowerText text.toList) := by
  refine ⟨fun text z h => readZone?_of_readExactZone? hkeeps h true, fun text z h => ?_⟩
  refine ⟨canonicalZoneText db text, h, ?_⟩
  rcases canonicalZoneText_cases db text with ⟨hlisted, hcanonical⟩ | ⟨-, hlower⟩
  · have hupper := isUpper_of_isListed hlisted
    rw [hcanonical]
    refine .inl ⟨?_, hupper⟩
    rw [upperText_eq_self hupper, String.toList_ofList]
  · exact .inr hlower

/-- New York is found in small letters, and PST is the same zone either way. -/
theorem readZone?_anyCase_newYork :
    Database.listed.KeepsCapitals ∧
      readZone? true "america/new_york" .listed = some (.region "America/New_York" Database.newYork) ∧
      (∃ text', readZone? false text' .listed = some (.region "America/New_York" Database.newYork) ∧
        (upperText text'.toList = upperText "america/new_york".toList ∧ (∀ c ∈ text'.toList, IsUpper c) ∨
          lowerText text'.toList = lowerText "america/new_york".toList)) ∧
      readZone? false "PST" .listed = some (.fixed (-28800) "PST") ∧
      readZone? true "PST" .listed = some (.fixed (-28800) "PST") := by
  have hsmall : readZone? true "america/new_york" .listed = some (.region "America/New_York" Database.newYork) := by
    decide +kernel
  have hexact : readZone? false "PST" .listed = some (.fixed (-28800) "PST") := by decide +kernel
  obtain ⟨hextends, hconservative⟩ := readZone?_anyCase Database.keepsCapitals_listed
  exact ⟨Database.keepsCapitals_listed, hsmall, hconservative _ _ hsmall, hexact, hextends _ _ hexact⟩

/-! ### Texts in other letter case -/

namespace Database

/-- No two names on offer differ in letter case only. -/
def ToldApart (db : Database) : Prop :=
  ∀ name ∈ db.available, ∀ other ∈ db.available, lowerText name.toList = lowerText other.toList → name = other

/-- All names of regions are on offer. -/
def OffersAll (db : Database) : Prop :=
  ∀ name history, db.history? name = some history → name ∈ db.available

instance (db : Database) : Decidable db.ToldApart :=
  inferInstanceAs (Decidable (∀ name ∈ db.available, ∀ other ∈ db.available, _))

theorem toldApart_listed : listed.ToldApart := by
  decide +kernel

theorem offersAll_listed : listed.OffersAll :=
  fun _ _ hn => List.mem_map.2 ⟨_, mem_listedRegions hn, rfl⟩

end Database

/-- Where the upper-case form is neither an offset nor an abbreviation, the name on offer with the lower-case form of the text is
read, if there is one. -/
private theorem readZone?_of_not_listed (hapart : db.ToldApart) (hoffers : db.OffersAll)
    (hcapitals : isListed (String.ofList (upperText text.toList)) = false) :
    readZone? true text db =
      (db.available.find? fun name => lowerText name.toList == lowerText text.toList).bind fun name =>
        readExactZone? db name := by
  have hread : readZone? true text db = readExactZone? db (canonicalZoneText db text) := rfl
  rw [hread]
  unfold canonicalZoneText
  dsimp only
  rw [if_neg (by rw [show (_ || _) = false from hcapitals]; decide)]
  cases hfind : db.available.find? fun name => lowerText name.toList == lowerText text.toList with
  | some name =>
    dsimp only [Option.bind_some, Option.getD_some]
    cases hhistory : db.history? text with
    | none => rfl
    | some history =>
      -- a region is on offer, where no other name has its lower-case form
      have hsame := List.find?_some hfind
      have hname := hapart _ (List.mem_of_find?_eq_some hfind) _ (hoffers text history hhistory) (beq_iff_eq.1 hsame)
      exact congrArg (readExactZone? db) hname.symm
  | none =>
    have hhistory : db.history? text = none := by
      cases hhistory : db.history? text with
      | none => rfl
      | some history =>
        have hno := List.find?_eq_none.1 hfind _ (hoffers text history hhistory)
        exact absurd (beq_self_eq_true _) hno
    have hlisted : isListed text = false := by
      rw [← Bool.not_eq_true]
      intro h
      rw [ofList_upperText h, h] at hcapitals
      cases hcapitals
    simp only [isListed, Bool.or_eq_false_iff, Option.isSome_eq_false_iff, Option.isNone_iff_eq_none] at hlisted
    simp [readExactZone?, Database.zone?, hlisted, hhistory]

/-- The zone that is read in any letter case depends on the upper-case and the lower-case form of the text only. -/
theorem readZone?_of_sameForms (hapart : db.ToldApart) (hoffers : db.OffersAll) {text' : String}
    (hupper : upperText text'.toList = upperText text.toList) (hlower : lowerText text'.toList = lowerText text.toList) :
    readZone? true text' db = readZone? true text db := by
  by_cases hcapitals : isListed (String.ofList (upperText text.toList)) = true
  · have hread : ∀ t : String, upperText t.toList = upperText text.toList →
        readZone? true t db = readExactZone? db (String.ofList (upperText text.toList)) := by
      intro t ht
      rcases canonicalZoneText_cases db t with ⟨-, hcanonical⟩ | ⟨hno, -⟩
      · rw [ht] at hcanonical
        exact congrArg (readExactZone? db) hcanonical
      · rw [ht, hcapitals] at hno
        cases hno
    rw [hread text' hupper, hread text rfl]
  · rw [Bool.not_eq_true] at hcapitals
    rw [readZone?_of_not_listed hapart hoffers hcapitals,
      readZone?_of_not_listed hapart hoffers (by rw [hupper]; exact hcapitals), hlower]

/-- A region that is not on offer is found in its own letter case only. -/
example : readZone? true "posixrules" ⟨[("posixrules", Database.newYork)], []⟩ = some (.region "posixrules" Database.newYork) ∧
    readZone? true "POSIXRULES" ⟨[("posixrules", Database.newYork)], []⟩ = none := by
  decide +kernel

end CivilTime
