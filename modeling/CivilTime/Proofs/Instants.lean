import CivilTime.Moment
import CivilTime.Proofs.Zone.Gaps
import CivilTime.Proofs.Zone.InEffect
import CivilTime.Proofs.Zone.Listed

/-!
# Instants and local times

In a zone with separated changes, and so in every zone of a separated database, the moment of an instant leads back to the
instant and is observed with what is in effect then, on both passes of a local time that is repeated. A local time on
its first pass is shown again by its instant, unless it lies in a gap: then the clocks show it later by the length of
the gap (`Moment.ofMillis?_inverse`).
-/

namespace CivilTime

namespace LocalTime

@[simp] theorem millis_plus (t : LocalTime) (n : Int) : (t.plus n).millis = t.millis + n := rfl

theorem seconds_plus (t : LocalTime) (n : Int) : (t.plus (1000 * n)).seconds = t.seconds + n := by
  unfold seconds
  rw [millis_plus]
  omega

end LocalTime

/-- The local time that a zone shows at an instant. -/
def Zone.localTime (z : Zone) (millis : Int) : LocalTime :=
  (⟨millis⟩ : LocalTime).plus (1000 * (z.atUtc (millis / 1000)).1.offset)

theorem Zone.shows_of_localTime {z : Zone} {millis : Int} {t : LocalTime} (h : z.localTime millis = t) :
    z.Shows (millis / 1000) t.seconds := by
  rw [← h]
  unfold localTime Shows
  rw [LocalTime.seconds_plus]
  rfl

namespace Moment

variable {zone : Zone} {millis : Int} {m : Moment}

theorem ofMillis?_eq_some_iff :
    ofMillis? millis zone = some m ↔
      ((⟨millis⟩ : LocalTime).isSupported = true ∧ m.time.isSupported = true) ∧
        m = ⟨zone, (⟨millis⟩ : LocalTime).plus (1000 * (zone.atUtc (millis / 1000)).1.offset),
          (zone.atUtc (millis / 1000)).2⟩ := by
  simp only [ofMillis?, LocalTime.seconds, Option.ite_none_right_eq_some, Bool.and_eq_true, Option.some.injEq]
  constructor
  · rintro ⟨⟨hutc, htime⟩, rfl⟩
    exact ⟨⟨hutc, htime⟩, rfl⟩
  · rintro ⟨⟨hutc, htime⟩, rfl⟩
    exact ⟨⟨hutc, htime⟩, rfl⟩

/-- What is observed at the moment of an instant is what the zone observes then. -/
theorem observance_of_ofMillis? (h : zone.Separated) (hm : ofMillis? millis zone = some m) :
    m.observance = (zone.atUtc (millis / 1000)).1 := by
  obtain ⟨-, rfl⟩ := ofMillis?_eq_some_iff.1 hm
  have hreads := h.coherent.reads (millis / 1000)
  unfold observance
  rw [LocalTime.seconds_plus]
  exact hreads

/-- The moment of an instant leads back to the instant. -/
theorem toMillis_of_ofMillis? (h : zone.Separated) (hm : ofMillis? millis zone = some m) : m.toMillis = millis := by
  have hobs := observance_of_ofMillis? h hm
  obtain ⟨-, rfl⟩ := ofMillis?_eq_some_iff.1 hm
  unfold toMillis offset
  rw [hobs, LocalTime.millis_plus]
  exact Int.add_sub_cancel _ _

private theorem seconds_toMillis_firstPass (time : LocalTime) :
    (firstPass zone time).toMillis / 1000 = time.seconds - (zone.atLocal false time.seconds).offset := by
  unfold toMillis offset observance firstPass LocalTime.seconds
  dsimp only
  omega

/-- The local time of a moment, on its first pass, leads to the first instant that shows it. -/
theorem toMillis_firstPass_isLeast (h : zone.Separated) (hm : ofMillis? millis zone = some m) :
    zone.localTime (firstPass zone m.time).toMillis = m.time ∧
      (∀ other, zone.localTime other = m.time → (firstPass zone m.time).toMillis ≤ other) ∧
      ((firstPass zone m.time).toMillis = millis ↔ m.secondPass = false) := by
  have hback := toMillis_of_ofMillis? h hm
  obtain ⟨-, he⟩ := ofMillis?_eq_some_iff.1 hm
  have htime : zone.localTime millis = m.time := by
    rw [he]
    rfl
  have hsec := @seconds_toMillis_firstPass zone m.time
  have hmillis : (firstPass zone m.time).toMillis =
      m.time.millis - 1000 * (zone.atLocal false m.time.seconds).offset := rfl
  -- the local time is shown, so it lies in no gap
  rcases h.atLocal_cases m.time.seconds with ⟨hl, hleast⟩ | ⟨u, hu, -⟩
  · rw [← hsec] at hl
    refine ⟨?_, fun other hother => ?_, fun heq => ?_, fun hpass => ?_⟩
    · unfold Zone.localTime LocalTime.plus
      rw [hl, hmillis, Int.sub_add_cancel]
    · have hle := hleast _ (Zone.shows_of_localTime hother)
      have hmod := congrArg LocalTime.millis hother
      unfold Zone.localTime at hmod
      rw [LocalTime.millis_plus] at hmod
      have hdiv : m.time.seconds = m.time.millis / 1000 := rfl
      dsimp only at hmod
      omega
    · rw [he]
      dsimp only
      rw [← heq, hl]
    · have hfirst : m = firstPass zone m.time := by
        unfold firstPass
        rw [← hpass]
        rw [he]
      rw [← hfirst, hback]
  · exact absurd (Zone.shows_of_localTime htime) (h.not_shows_of_skips hu)

/-- The moment at which the instant of a local time on its first pass is shown. -/
private theorem eq_of_ofMillis?_firstPass {time : LocalTime}
    (hm : ofMillis? (firstPass zone time).toMillis zone = some m) {o : Observance}
    (ho : zone.atUtc (time.seconds - (zone.atLocal false time.seconds).offset) = (o, false)) :
    m = firstPass zone (time.plus (1000 * (o.offset - (zone.atLocal false time.seconds).offset))) := by
  obtain ⟨-, rfl⟩ := ofMillis?_eq_some_iff.1 hm
  rw [seconds_toMillis_firstPass, ho]
  unfold firstPass toMillis offset observance LocalTime.plus
  simp only [mk.injEq, LocalTime.mk.injEq, true_and, and_true]
  omega

/-- In every zone that can be named where the database is separated, the moment of an instant leads back to it and observes
what is in effect; the moment of the instant of a local time on its first pass is that local time where it is not in a gap,
and later by the length of the gap where it is. -/
theorem ofMillis?_inverse :
    (∀ db : Database, db.IsSeparated → ∀ name z, resolveZone? name db = some z → z.Separated) ∧
      ∀ z : Zone, z.Separated →
        (∀ millis m, ofMillis? millis z = some m →
          m.toMillis = millis ∧ z.InEffect (millis / 1000) m.observance) ∧
        ∀ (time : LocalTime) m, ofMillis? (firstPass z time).toMillis z = some m →
          ((¬∃ u, z.Skips u time.seconds) → m = firstPass z time) ∧
            ∀ u, z.Skips u time.seconds → m = firstPass z (time.plus (1000 * z.gap u)) := by
  refine ⟨fun db hdb name z hz => separated_of_resolveZone? hdb hz, fun z h => ⟨fun millis m hm => ⟨?_, ?_⟩, fun time m hm => ?_⟩⟩
  · exact toMillis_of_ofMillis? h hm
  · rw [observance_of_ofMillis? h hm]
    exact h.inEffect_atUtc _
  · rcases h.atLocal_cases time.seconds with ⟨hl, -⟩ | ⟨v, hv, hbefore, o, ho, hoff⟩
    · have hshown : ∃ s, z.Shows s time.seconds := by
        refine ⟨time.seconds - (z.atLocal false time.seconds).offset, ?_⟩
        unfold Zone.Shows
        rw [hl]
        dsimp only
        omega
      refine ⟨fun _ => ?_, fun u hu => absurd ⟨u, hu⟩ ((h.shown_iff _).1 hshown)⟩
      have e := eq_of_ofMillis?_firstPass hm hl
      rw [e, Int.sub_self]
      unfold firstPass LocalTime.plus
      simp
    · refine ⟨fun hno => absurd ⟨v, hv⟩ hno, fun u hu => ?_⟩
      rw [h.skips_unique hu hv, eq_of_ofMillis?_firstPass hm ho]
      unfold Zone.gap
      rw [hoff, hbefore]

/-- In New York the second half past one on 7 November 2021 leads back to its instant, and half past two on 14 March 2021
is shown as half past three. -/
theorem ofMillis?_inverse_newYork :
    (∃ m, ofMillis? 1636266600000 (.region "America/New_York" Database.newYork) = some m ∧ m.secondPass = true ∧
      m.toMillis = 1636266600000) ∧
    ∃ m, ofMillis? (firstPass (.region "America/New_York" Database.newYork) (.of ⟨2021, 3, 14⟩ 2 30 0 0)).toMillis
        (.region "America/New_York" Database.newYork) = some m ∧
      m = firstPass (.region "America/New_York" Database.newYork) (.of ⟨2021, 3, 14⟩ 3 30 0 0) := by
  have hz : (Zone.region "America/New_York" Database.newYork).Separated :=
    ofMillis?_inverse.1 .listed Database.isSound_listed.separated "America/New_York" _ (by decide +kernel)
  obtain ⟨h1, h2⟩ := ofMillis?_inverse.2 _ hz
  constructor
  · refine ⟨⟨.region "America/New_York" Database.newYork, .of ⟨2021, 11, 7⟩ 1 30 0 0, true⟩, by decide +kernel, rfl, ?_⟩
    exact (h1 1636266600000 _ (by decide +kernel)).1
  · refine ⟨firstPass (.region "America/New_York" Database.newYork) (.of ⟨2021, 3, 14⟩ 3 30 0 0), by decide +kernel, ?_⟩
    exact (h2 (.of ⟨2021, 3, 14⟩ 2 30 0 0) _ (by decide +kernel)).2 1615705200
      ⟨by decide +kernel, by decide +kernel⟩

end Moment

/-! ### Numbers in reports -/

private theorem lt_digitCount_pow {k : Nat} (hk : 0 < k) : k < digitCount (Nat.pow 10 k) := by
  have h := Nat.length_toDigits_le_iff (b := 10) (n := Nat.pow 10 k) (by decide) hk
  unfold digitCount
  rw [Int.natAbs_natCast, ← Nat.not_le, h]
  exact Nat.lt_irrefl _

/-- Some number is too long to be printed, and greater than any number of months or milliseconds in the supported years. -/
theorem exists_lt_digitCount : ∃ n : Nat, 1000000000000000 ≤ n ∧ longestNumber < digitCount n := by
  have hlarge : ∀ k, 15 ≤ k → Nat.pow 10 15 ≤ Nat.pow 10 k := fun k hk => Nat.pow_le_pow_right (by decide) hk
  exact ⟨Nat.pow 10 longestNumber, hlarge _ (by decide), lt_digitCount_pow (by decide)⟩

end CivilTime
