import CivilTime.Proofs.Rollover
import CivilTime.Proofs.SumOrder

/-!
# The order of months

Lenient reading counts on from January by months of any number. Between two months there lie at least 28 days, and what comes
after the first day of the month is the same duration in both (`Reading.millis_rolledOver_add_le`), so of two texts that differ in
nothing but the month the one with the greater month is the later instant. Only a month of zero is not the one before January: it
counts as absent, and stands for January itself (`DateFormat.readInstant_month_order`).
-/

namespace CivilTime

/-! ### Local times -/

namespace Reading

variable {r r' : Reading}

theorem startMonth_of_month {n : Nat} (h : r.month = some n) : r.startMonth = max n 1 := by
  unfold startMonth
  rw [h]
  cases n with
  | zero => rfl
  | succ n => exact (Nat.max_eq_left (Nat.le_add_left 1 n)).symm

/-- The local time of the fields is as long after the first day of its month as the fields below the month say. -/
theorem millis_rolledOver (r : Reading) :
    r.rolledOver.millis = millisPerDay * ((⟨0, 1, 1⟩ : Date).monthsAfter r.monthNumber).toDay + r.span.total := by
  have hstart := monthsAfter_january 0 r.monthNumber
  rw [Int.mul_zero, Int.zero_add] at hstart
  rw [hstart]
  unfold rolledOver LocalTime.of LocalTime.plus millisPerDay
  dsimp only
  omega

/-- A greater month of the same year, with the same fields below it, is a local time at least 28 days later. -/
theorem millis_rolledOver_add_le (hyear : r.year = r'.year) (hspan : r.span = r'.span) (h : r.startMonth < r'.startMonth) :
    r.rolledOver.millis + 28 * millisPerDay ≤ r'.rolledOver.millis := by
  have hmonth : r.monthNumber < r'.monthNumber := by
    unfold monthNumber
    rw [hyear]
    omega
  have hdays := (⟨0, 1, 1⟩ : Date).toDay_monthsAfter_lt hmonth
  rw [millis_rolledOver, millis_rolledOver, hspan]
  unfold millisPerDay
  omega

end Reading

/-! ### Instants -/

namespace DateFormat

variable {s : Surroundings} {f : DateFormat} {spec : FormatSpec} {locale text text' : String} {r : Reading}
  {instant instant' : Int}

/-- The instant of a text is that of its local time, rolled over. -/
theorem eq_of_readInstant {zone : Zone} (hr : f.pattern.read s.today text s.database = .ok r)
    (hzone : r.zone.or f.zone = some zone) (h : f.readInstant s text = .ok instant) :
    instant = (Moment.firstPass zone r.rolledOver).toMillis := by
  rw [readInstant_of_read hr (readingZone_of_or hzone s), r.localTime?_eq_rolledOver] at h
  split at h
  · rename_i time htime
    split at htime
    · cases htime
      cases h
      rfl
    · cases htime
  · cases h

/-- Of two texts that a lenient pattern reads with the same fields but for the month, the one with the greater month is the later
instant, however far the months lie beyond twelve and in whatever zone. A month of zero is the same instant as January. -/
theorem readInstant_month_order (hdb : s.database.IsBounded) (hf : bind spec locale true s.database = .ok f) {m n : Nat}
    (hlt : m < n)
    (hr : f.pattern.read s.today text s.database = .ok { r with month := some m })
    (hr' : f.pattern.read s.today text' s.database = .ok { r with month := some n })
    (h : f.readInstant s text = .ok instant) (h' : f.readInstant s text' = .ok instant') :
    (n ≠ 1 → instant < instant') ∧ (n = 1 → instant = instant') := by
  obtain ⟨zone, hzone⟩ := exists_zone_of_read hf hr
  have hb := bounded_of_read hdb hf hr hzone
  have hstart := @Reading.startMonth_of_month { r with month := some m } m rfl
  have hstart' := @Reading.startMonth_of_month { r with month := some n } n rfl
  rw [eq_of_readInstant hr hzone h, eq_of_readInstant hr' hzone h']
  constructor
  · intro hn
    have hlater := @Reading.millis_rolledOver_add_le { r with month := some m } { r with month := some n } rfl rfl (by omega)
    unfold millisPerDay at hlater
    exact Moment.toMillis_firstPass_lt hb (by unfold millisPerDay; omega)
  · intro hn
    have hsame : ({ r with month := some m } : Reading).rolledOver = { r with month := some n }.rolledOver := by
      unfold Reading.rolledOver Reading.monthNumber
      rw [hstart, hstart', show max m 1 = max n 1 by omega]
      rfl
    rw [hsame]

/-- In New York the 31st day of month 14 of 2021, which is 3 March 2022, is later than the last day of 2021. -/
theorem readInstant_month_order_newYork :
    ∃ f instant instant', DateFormat.lenient .bare (some "yyyy-MM-dd")
        (some "America/New_York") = .ok f ∧
      f.readInstant .bare "2021-12-31" = .ok instant ∧
      f.readInstant .bare "2021-14-31" = .ok instant' ∧ instant < instant' := by
  obtain ⟨f, hf, hr, hr', h, h'⟩ :
      ∃ f, DateFormat.lenient .bare (some "yyyy-MM-dd")
          (some "America/New_York") = .ok f ∧
        f.pattern.read ⟨2021, 1, 1⟩ "2021-12-31" .listed =
          .ok ⟨some 2021, some 12, some 31, none, none, none, none, none, none⟩ ∧
        f.pattern.read ⟨2021, 1, 1⟩ "2021-14-31" .listed =
          .ok ⟨some 2021, some 14, some 31, none, none, none, none, none, none⟩ ∧
        f.readInstant .bare "2021-12-31" = .ok 1640926800000 ∧
        f.readInstant .bare "2021-14-31" = .ok 1646283600000 := by
    refine ⟨⟨⟨"yyyy-MM-dd", some "America/New_York"⟩, "en", some (.region "America/New_York" Database.newYork),
      ⟨"yyyy-MM-dd", [.field .year 4, .literal ['-'], .field .month 2, .literal ['-'], .field .day 2], .english, true⟩⟩,
      eq_ok_of_toOption ?_, eq_ok_of_toOption ?_, eq_ok_of_toOption ?_, eq_ok_of_toOption ?_, eq_ok_of_toOption ?_⟩ <;>
      decide +kernel
  exact ⟨f, _, _, hf, h, h',
    (@readInstant_month_order .bare _ _ _ _ _
      ⟨some 2021, none, some 31, none, none, none, none, none, none⟩ _ _ Database.isSound_listed.bounded hf 12 14 (by decide)
      hr hr' h h').1 (by decide)⟩

/-- Month zero of 2021 and its January are read as different fields and as one instant, while day zero is the day before the
first. -/
theorem not_readInstant_lt_of_month_zero :
    ∃ f, DateFormat.lenient .bare (some "yyyy-MM-dd") none = .ok f ∧
      f.pattern.read ⟨2021, 1, 1⟩ "2021-00-15" .listed =
        .ok ⟨some 2021, some 0, some 15, none, none, none, none, none, none⟩ ∧
      f.pattern.read ⟨2021, 1, 1⟩ "2021-01-15" .listed =
        .ok ⟨some 2021, some 1, some 15, none, none, none, none, none, none⟩ ∧
      f.readInstant .bare "2021-00-15" = .ok 1610668800000 ∧
      f.readInstant .bare "2021-01-15" = .ok 1610668800000 ∧
      f.readInstant .bare "2021-01-00" = .ok 1609372800000 ∧
      f.readInstant .bare "2021-01-01" = .ok 1609459200000 := by
  refine ⟨⟨⟨"yyyy-MM-dd", none⟩, "en", some .utc,
    ⟨"yyyy-MM-dd", [.field .year 4, .literal ['-'], .field .month 2, .literal ['-'], .field .day 2], .english, true⟩⟩,
    eq_ok_of_toOption ?_, eq_ok_of_toOption ?_, eq_ok_of_toOption ?_, eq_ok_of_toOption ?_, eq_ok_of_toOption ?_,
    eq_ok_of_toOption ?_, eq_ok_of_toOption ?_⟩ <;>
    decide +kernel

end DateFormat

end CivilTime
