import CivilTime.Proofs.Zone.Separated
import CivilTime.Surroundings

/-!
# Zones that can be named

A zone that a caller, a text or the system names is a fixed offset of up to 18 hours or a region of the database
(`resolveZone?_cases`, `readZone?_cases`). What a database is assumed to keep to is said of all its regions: their clocks turn
further apart than they are turned (`Database.IsSeparated`), and they are never as much as a day off UTC
(`Database.IsBounded`). So the zones that can be named do (`separated_of_resolveZone?`, `bounded_of_resolveZone?`).
-/

namespace CivilTime

/-! ### What is ever observed -/

/-- What a rule observes. -/
def ClosingRule.observances : ClosingRule → List Observance
  | .steady observance => [observance]
  | .seasonal standard season _ _ => [standard, season]

/-- What a region ever observes, by its history. -/
def History.observances (h : History) : List Observance :=
  h.first :: (h.changes.map (·.observance) ++ h.rule.observances)

/-- What a zone ever observes. -/
def Zone.observances : Zone → List Observance
  | .fixed offset name => [⟨offset, name⟩]
  | .region _ history => history.observances

private theorem ClosingRule.atUtc_mem (rule : ClosingRule) (s : Int) : (rule.atUtc s).1 ∈ rule.observances := by
  cases rule with
  | steady observance => exact List.mem_singleton_self _
  | seasonal standard season start finish =>
    simp only [atUtc, observances]
    split <;> simp

private theorem afterChange_mem (rule : ClosingRule) (s : Int) (previous : Observance) (since : Int)
    (current : Observance) (changes : List Change) :
    (afterChange rule s previous since current changes).1 ∈
      current :: (changes.map (·.observance) ++ rule.observances) := by
  induction changes generalizing previous since current with
  | nil =>
    rw [afterChange]
    split
    · exact List.mem_cons_self
    · exact List.mem_cons_of_mem _ (rule.atUtc_mem s)
  | cons next rest ih =>
    rw [afterChange]
    split
    · exact List.mem_cons_self
    · exact List.mem_cons_of_mem _ (ih current next.second next.observance)

theorem Zone.atUtc_mem (z : Zone) (s : Int) : (z.atUtc s).1 ∈ z.observances := by
  cases z with
  | fixed offset name => exact List.mem_singleton_self _
  | region name h =>
    change (h.atUtc s).1 ∈ h.first :: (h.changes.map (·.observance) ++ h.rule.observances)
    unfold History.atUtc
    cases h.changes with
    | nil => exact List.mem_cons_of_mem _ (h.rule.atUtc_mem s)
    | cons c rest =>
      dsimp only
      split
      · exact List.mem_cons_self
      · exact List.mem_cons_of_mem _ (afterChange_mem h.rule s h.first c.second c.observance rest)

private theorem ClosingRule.atLocal_mem (rule : ClosingRule) (secondPass : Bool) (l : Int) :
    rule.atLocal secondPass l ∈ rule.observances := by
  cases rule with
  | steady observance => exact List.mem_singleton_self _
  | seasonal standard season start finish =>
    dsimp only [atLocal, observances]
    generalize (if secondPass == _ then inSeason _ _ l else _) = inside
    cases inside <;> simp

private theorem afterLocalChange_mem (rule : ClosingRule) (secondPass : Bool) (l since : Int) (current : Observance)
    (changes : List Change) :
    afterLocalChange rule secondPass l since current changes ∈
      current :: (changes.map (·.observance) ++ rule.observances) := by
  induction changes generalizing since current with
  | nil =>
    rw [afterLocalChange]
    split
    · exact List.mem_cons_self
    · exact List.mem_cons_of_mem _ (rule.atLocal_mem secondPass l)
  | cons next rest ih =>
    rw [afterLocalChange]
    split
    · exact List.mem_cons_self
    · exact List.mem_cons_of_mem _ (ih _ next.observance)

theorem Zone.atLocal_mem (z : Zone) (secondPass : Bool) (l : Int) : z.atLocal secondPass l ∈ z.observances := by
  cases z with
  | fixed offset name => exact List.mem_singleton_self _
  | region name h =>
    change h.atLocal secondPass l ∈ h.first :: (h.changes.map (·.observance) ++ h.rule.observances)
    unfold History.atLocal
    cases h.changes with
    | nil => exact List.mem_cons_of_mem _ (h.rule.atLocal_mem secondPass l)
    | cons c rest =>
      dsimp only
      split
      · exact List.mem_cons_self
      · exact List.mem_cons_of_mem _ (afterLocalChange_mem h.rule secondPass l _ c.observance rest)

/-- The zone never observes a day or more to either side of UTC. -/
def Zone.Bounded (z : Zone) : Prop := ∀ o ∈ z.observances, o.offset.natAbs < 86400

private theorem bounded_fixed {offset : Int} {name : String} (h : offset.natAbs ≤ 64800) :
    (Zone.fixed offset name).Bounded := by
  intro o ho
  rw [List.mem_singleton.1 ho]
  exact Nat.lt_of_le_of_lt h (by decide)

/-! ### Databases -/

namespace Database

/-- In every region the clocks turn further apart than they are turned. -/
def IsSeparated (db : Database) : Prop :=
  ∀ name history, db.history? name = some history → history.Separated

/-- No region is ever a day or more off UTC. -/
def IsBounded (db : Database) : Prop :=
  ∀ name history, db.history? name = some history → (Zone.region name history).Bounded

/-- What holds of the clocks of every region: they turn further apart than they are turned, and they are never a day or more off
UTC. -/
structure IsSound (db : Database) : Prop where
  separated : db.IsSeparated
  bounded : db.IsBounded

/-- No region is ever more than eighteen hours off UTC, the furthest that an offset in a text can be. -/
def HasReadableOffsets (db : Database) : Prop :=
  ∀ name history, db.history? name = some history → ∀ o ∈ history.observances, o.offset.natAbs ≤ 64800

/-- The regions for which old names stand are there. -/
def KnowsOldNames (db : Database) : Prop :=
  ∀ entry ∈ shortRegionNames, (db.history? entry.2).isSome = true

instance (db : Database) : Decidable db.KnowsOldNames :=
  inferInstanceAs (Decidable (∀ entry ∈ shortRegionNames, _))

end Database

/-! ### Offsets -/

theorem mem_of_lookup {α : Type} {k : String} {v : α} {l : List (String × α)} (h : l.lookup k = some v) :
    (k, v) ∈ l := by
  obtain ⟨l₁, l₂, rfl, -⟩ := List.lookup_eq_some_iff.1 h
  exact List.mem_append_right _ List.mem_cons_self

private theorem offsetOfDigits?_bounds {sign hours minutes : List Char} {offset : Int}
    (h : offsetOfDigits? sign hours minutes = some offset) : offset.natAbs ≤ 64800 ∧ offset % 60 = 0 := by
  simp only [offsetOfDigits?] at h
  split at h
  · cases h
  · rename_i hle
    rw [Bool.or_eq_true, decide_eq_true_eq, decide_eq_true_eq] at hle
    cases h
    split <;> omega

/-- An offset that is read is zero under a name of its own, or made of hours and minutes, up to 18 hours, and goes by the text that
the form with or without the letters GMT writes for it. -/
theorem readOffset?_cases {text : String} {o : NamedOffset} (h : readOffset? text = some o) :
    o ∈ [⟨0, "Z"⟩, ⟨0, "GMT"⟩, ⟨0, "UTC"⟩] ∨
      (o.offset.natAbs ≤ 64800 ∧ o.offset % 60 = 0) ∧ (o.name = gmtOffset true o.offset ∨ o.name = offsetId o.offset) := by
  have hmap : ∀ {sign hours minutes : List Char} {name : Int → String},
      (offsetOfDigits? sign hours minutes).map (fun offset => (⟨offset, name offset⟩ : NamedOffset)) = some o →
        (o.offset.natAbs ≤ 64800 ∧ o.offset % 60 = 0) ∧ o.name = name o.offset := by
    intro sign hours minutes name hm
    obtain ⟨offset, ho, rfl⟩ := Option.map_eq_some_iff.1 hm
    exact ⟨offsetOfDigits?_bounds ho, rfl⟩
  unfold readOffset? at h
  split at h
  · cases h
    decide
  · split at h
    · cases h
      decide
    · split at h
      · cases h
        decide
      · unfold readPrefixedOffset? readBareOffset? at h
        split at h
        · obtain ⟨hbounds, hname⟩ := hmap h
          exact .inr ⟨hbounds, .inl hname⟩
        · rw [Option.getD_none] at h
          split at h
          · obtain ⟨hbounds, hname⟩ := hmap h
            exact .inr ⟨hbounds, .inr hname⟩
          · cases h

theorem natAbs_readOffset?_le {text : String} {o : NamedOffset} (h : readOffset? text = some o) :
    o.offset.natAbs ≤ 64800 := by
  rcases readOffset?_cases h with hzero | ⟨⟨hle, -⟩, -⟩
  · have hall : ∀ o ∈ [(⟨0, "Z"⟩ : NamedOffset), ⟨0, "GMT"⟩, ⟨0, "UTC"⟩], o.offset.natAbs ≤ 64800 := by decide
    exact hall o hzero
  · exact hle

/-! ### Named zones -/

section

variable {db : Database} {z : Zone} {name text : String} {anyCase : Bool}

/-- A zone that a caller names is a fixed offset or a region of the database. -/
theorem resolveZone?_cases (h : resolveZone? name db = some z) :
    (∃ offset n, z = .fixed offset n ∧ offset.natAbs ≤ 64800) ∨
      ∃ n history, z = .region n history ∧ db.history? n = some history := by
  unfold resolveZone? at h
  split at h
  · rename_i o ho
    cases h
    exact .inl ⟨_, _, rfl, natAbs_readOffset?_le ho⟩
  · split at h
    · rename_i offset ho
      cases h
      refine .inl ⟨_, _, rfl, ?_⟩
      have : (shortOffsetNames.all fun p => p.2.natAbs ≤ 64800) = true := by decide
      exact of_decide_eq_true (List.all_eq_true.1 this _ (mem_of_lookup ho))
    · obtain ⟨history, hh, rfl⟩ := Option.map_eq_some_iff.1 h
      exact .inr ⟨_, history, rfl, hh⟩

/-- A zone that stands in date text is a fixed offset or a region of the database. -/
theorem readZone?_cases (h : readZone? anyCase text db = some z) :
    (∃ offset n, z = .fixed offset n ∧ offset.natAbs ≤ 64800) ∨
      ∃ n history, z = .region n history ∧ db.history? n = some history := by
  unfold readZone? readExactZone? at h
  generalize (if anyCase then canonicalZoneText db text else text) = text at h
  split at h
  · rename_i o ho
    cases h
    exact .inl ⟨_, _, rfl, natAbs_readOffset?_le ho⟩
  · split at h
    · rename_i offset ho
      cases h
      refine .inl ⟨_, _, rfl, ?_⟩
      have : (abbreviations.all fun p => p.2.natAbs ≤ 64800) = true := by decide
      exact of_decide_eq_true (List.all_eq_true.1 this _ (mem_of_lookup ho))
    · obtain ⟨history, hh, rfl⟩ := Option.map_eq_some_iff.1 h
      exact .inr ⟨_, history, rfl, hh⟩

theorem separated_of_resolveZone? (hdb : db.IsSeparated) (h : resolveZone? name db = some z) : z.Separated := by
  rcases resolveZone?_cases h with ⟨offset, n, rfl, _⟩ | ⟨n, history, rfl, hh⟩
  · trivial
  · exact hdb n history hh

theorem separated_of_readZone? (hdb : db.IsSeparated) (h : readZone? anyCase text db = some z) : z.Separated := by
  rcases readZone?_cases h with ⟨offset, n, rfl, _⟩ | ⟨n, history, rfl, hh⟩
  · trivial
  · exact hdb n history hh

theorem bounded_of_resolveZone? (hdb : db.IsBounded) (h : resolveZone? name db = some z) : z.Bounded := by
  rcases resolveZone?_cases h with ⟨offset, n, rfl, hle⟩ | ⟨n, history, rfl, hh⟩
  · exact bounded_fixed hle
  · exact hdb n history hh

theorem bounded_of_readZone? (hdb : db.IsBounded) (h : readZone? anyCase text db = some z) : z.Bounded := by
  rcases readZone?_cases h with ⟨offset, n, rfl, hle⟩ | ⟨n, history, rfl, hh⟩
  · exact bounded_fixed hle
  · exact hdb n history hh

theorem natAbs_offset_le_of_resolveZone? (hdb : db.HasReadableOffsets) (h : resolveZone? name db = some z) :
    ∀ o ∈ z.observances, o.offset.natAbs ≤ 64800 := by
  rcases resolveZone?_cases h with ⟨offset, n, rfl, hle⟩ | ⟨n, history, rfl, hh⟩
  · intro o ho
    rw [List.mem_singleton.1 ho]
    exact hle
  · exact hdb n history hh

theorem resolveZone_eq_ok_iff : resolveZone name db = .ok z ↔ resolveZone? name db = some z := by
  unfold resolveZone
  cases resolveZone? name db <;> simp

theorem resolveZone?_utc (db : Database) : resolveZone? "UTC" db = some .utc := by
  have hutc : readOffset? "UTC" = some ⟨0, "UTC"⟩ := by decide +kernel
  unfold resolveZone?
  rw [hutc]
  rfl

end

/-! ### The system's zone -/

namespace Surroundings

variable {s : Surroundings} {z : Zone}

/-- The system's zone can be named. -/
theorem exists_resolveZone?_of_zone (h : s.zone = .ok z) : ∃ name, resolveZone? name s.database = some z := by
  unfold zone at h
  split at h
  · cases h
  · exact ⟨s.zoneName, resolveZone_eq_ok_iff.1 h⟩

/-- The name of the system's zone stands for a zone. -/
theorem exists_resolveZone?_zoneName (s : Surroundings) (hdb : s.database.KnowsOldNames) :
    ∃ z, resolveZone? s.zoneName s.database = some z := by
  unfold zoneName
  cases hfind : (s.zoneCandidates.map zoneNameOf).find? fun name => name != "" && (s.database.history? name).isSome with
  | none => exact ⟨_, resolveZone?_utc _⟩
  | some name =>
    have hregion := List.find?_some hfind
    rw [Bool.and_eq_true] at hregion
    rw [Option.getD_some, ← Option.isSome_iff_exists]
    unfold resolveZone?
    split
    · rfl
    · split
      · rfl
      · unfold Database.zone? regionName
        rw [Option.isSome_map]
        cases hshort : shortRegionNames.lookup name with
        | none => exact hregion.2
        | some region => exact hdb _ (mem_of_lookup hshort)

end Surroundings

end CivilTime
