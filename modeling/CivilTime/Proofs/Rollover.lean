import CivilTime.Proofs.Addition
import CivilTime.Proofs.ReadingZones

/-!
# Rolling over

Lenient reading takes numbers of any size. What is beyond its usual range rolls over: the month is counted on from January
of the year, and the rest is a duration from the first day of the month reached (`Reading.rolledOver`). It makes no difference
whether this duration is added as one number or its parts are carried over into each other before (`Span.total_carried`). The
instant of a text is that of the local time reached, in the zone of the text, or else that of the format
(`DateFormat.readInstant_rolledOver`).
-/

namespace CivilTime

/-! ### Durations in parts -/

/-- A duration in parts, each of any size and of either sign. -/
structure Span where
  days : Int
  hours : Int
  minutes : Int
  seconds : Int
  millis : Int
  deriving DecidableEq, Repr

namespace Span

/-- The length in milliseconds. -/
def total (p : Span) : Int :=
  millisPerDay * p.days + 3600000 * p.hours + 60000 * p.minutes + 1000 * p.seconds + p.millis

/-- The duration with its parts brought to their usual range: from the milliseconds on, each part is carried over to the next
one, in whole units and towards zero. -/
def carried (p : Span) : Span :=
  let seconds := p.seconds + p.millis.tdiv 1000
  let minutes := p.minutes + seconds.tdiv 60
  let hours := p.hours + minutes.tdiv 60
  let days := p.days + hours.tdiv 24
  ⟨days, hours.tmod 24, minutes.tmod 60, seconds.tmod 60, p.millis.tmod 1000⟩

theorem total_carried (p : Span) : p.carried.total = p.total := by
  have hmillis := Int.mul_tdiv_add_tmod p.millis 1000
  have hseconds := Int.mul_tdiv_add_tmod (p.seconds + p.millis.tdiv 1000) 60
  have hminutes := Int.mul_tdiv_add_tmod (p.minutes + (p.seconds + p.millis.tdiv 1000).tdiv 60) 60
  have hhours := Int.mul_tdiv_add_tmod
    (p.hours + (p.minutes + (p.seconds + p.millis.tdiv 1000).tdiv 60).tdiv 60) 24
  unfold total carried millisPerDay
  dsimp only
  omega

end Span

/-! ### From fields to a local time -/

namespace Reading

variable {r : Reading}

/-- The month of the fields. A month of zero counts as absent, and no month as January. -/
def startMonth (r : Reading) : Nat :=
  (r.month.filter (· != 0)).getD 1

/-- The months from January of the year 0 to the month of the fields. No year counts as 1970. -/
def monthNumber (r : Reading) : Int :=
  12 * r.year.getD 1970 + (r.startMonth - 1)

/-- The duration from the first day of the month to the fields. -/
def span (r : Reading) : Span :=
  ⟨(r.day.getD 1 : Int) - 1, r.hour.getD 0, r.minute.getD 0, r.second.getD 0, r.millisecond.getD 0⟩

/-- The local time of the fields, rolled over. -/
def rolledOver (r : Reading) : LocalTime :=
  (LocalTime.of ⟨r.monthNumber / 12, (r.monthNumber % 12).toNat + 1, 1⟩ 0 0 0 0).plus r.span.total

/-- The local time of the fields, found part by part: the months carry over into years, and the parts below the month into each
other, before they are added to the date. -/
def carriedTime? (r : Reading) : Option LocalTime := do
  guard (supportedYear (r.year.getD 1970))
  let start ← (⟨r.year.getD 1970, 1, 1⟩ : Date).addMonths (r.startMonth - 1)
  let time := (LocalTime.of start 0 0 0 0).plus r.span.carried.total
  guard time.isSupported
  return time

theorem monthsAfter_january (year months : Int) :
    (⟨year, 1, 1⟩ : Date).monthsAfter months =
      ⟨(12 * year + months) / 12, ((12 * year + months) % 12).toNat + 1, 1⟩ := by
  unfold Date.monthsAfter
  dsimp only
  rw [show 12 * year + (((1 : Nat) : Int) - 1) + months = 12 * year + months by omega, Date.mk.injEq]
  exact ⟨rfl, rfl, Nat.min_eq_left (Nat.le_trans (by decide) (monthLength_bounds _ _).1)⟩

theorem localTime?_eq_carriedTime? (r : Reading) : r.localTime? = r.carriedTime? := by
  have hmonth : (if r.month.getD 1 = 0 then (0 : Int) else r.month.getD 1 - 1) = r.startMonth - 1 := by
    unfold startMonth
    rcases r.month with - | - | n <;> rfl
  unfold localTime? carriedTime?
  dsimp only
  rw [hmonth, Span.total_carried]
  rfl

theorem one_le_startMonth (r : Reading) : 1 ≤ r.startMonth := by
  unfold startMonth
  rcases r.month with - | - | n
  · exact Nat.le_refl 1
  · exact Nat.le_refl 1
  · exact Nat.le_add_left 1 n

/-- There is a local time of the fields where the year is supported, the month does not lie after the last supported year, and
the local time reached lies in the supported years. -/
theorem localTime?_eq_rolledOver (r : Reading) :
    r.localTime? =
      if supportedYear (r.year.getD 1970) ∧ r.monthNumber / 12 ≤ 9999 ∧ r.rolledOver.isSupported then
        some r.rolledOver
      else none := by
  have hguard : ∀ {p : Prop} [Decidable p], p → (guard p : Option Unit) = some () := fun h => if_pos h
  have hfail : ∀ {p : Prop} [Decidable p], ¬p → (guard p : Option Unit) = none := fun h => if_neg h
  have hstart : (⟨r.year.getD 1970, 1, 1⟩ : Date).addMonths (r.startMonth - 1) =
      if supportedYear (r.monthNumber / 12) then some ⟨r.monthNumber / 12, (r.monthNumber % 12).toNat + 1, 1⟩
      else none := by
    rw [Date.addMonths_eq (Nat.le_refl 1) (show 1 ≤ 12 by decide), monthsAfter_january]
    rfl
  rw [localTime?_eq_carriedTime?]
  unfold carriedTime?
  rw [hstart, Span.total_carried]
  dsimp only [Option.bind_eq_bind]
  by_cases hyear : supportedYear (r.year.getD 1970) = true
  · rw [hguard hyear, Option.bind_some]
    by_cases hlate : r.monthNumber / 12 ≤ 9999
    · have hmonth : supportedYear (r.monthNumber / 12) = true := by
        have := r.one_le_startMonth
        unfold supportedYear at hyear ⊢
        unfold monthNumber at hlate ⊢
        simp only [Bool.and_eq_true, decide_eq_true_eq] at hyear ⊢
        omega
      rw [if_pos hmonth, Option.bind_some]
      change (guard (r.rolledOver.isSupported = true) : Option Unit).bind (fun _ => some r.rolledOver) = _
      by_cases hend : r.rolledOver.isSupported = true
      · rw [hguard hend, if_pos ⟨hyear, hlate, hend⟩]
        rfl
      · rw [hfail hend, if_neg fun h => hend h.2.2]
        rfl
    · have hmonth : ¬supportedYear (r.monthNumber / 12) = true := by
        unfold supportedYear
        simp only [Bool.and_eq_true, decide_eq_true_eq]
        exact fun h => hlate h.2
      rw [if_neg hmonth, Option.bind_none, if_neg fun h => hlate h.2.1]
  · rw [hfail hyear, Option.bind_none, if_neg fun h => hyear h.1]

end Reading

/-! ### Instants -/

namespace DateFormat

variable {s : Surroundings} {f : DateFormat} {spec : FormatSpec} {locale text : String} {r : Reading}

/-- A text that the lenient pattern reads stands for the instant of its local time, rolled over, in the zone that it names, or
else in that of the format; it is refused where there is no such local time. The local time is the same when it is found part by
part. -/
theorem readInstant_rolledOver (hdb : s.database.IsSeparated) (hf : bind spec locale true s.database = .ok f)
    (hr : f.pattern.read s.today text s.database = .ok r) :
    (if supportedYear (r.year.getD 1970) ∧ r.monthNumber / 12 ≤ 9999 ∧ r.rolledOver.isSupported then
      ∃ zone o, r.zone.or f.zone = some zone ∧ zone.ReadsWith r.rolledOver.seconds o ∧
        f.readInstant s text = .ok (r.rolledOver.millis - 1000 * o.offset)
    else f.readInstant s text = .error (.malformedDate text spec.pattern .unsupportedYear)) ∧
    r.localTime? = r.carriedTime? := by
  refine ⟨?_, r.localTime?_eq_carriedTime?⟩
  obtain ⟨zone, hzone⟩ := exists_zone_of_read hf hr
  have hspec : f.spec = spec := by
    obtain ⟨ts, bound, -, -, rfl⟩ := bind_eq_ok_iff_exists.1 hf
    rfl
  have hlocal := r.localTime?_eq_rolledOver
  rw [readInstant_of_read hr (readingZone_of_or hzone s)]
  split
  · rename_i hin
    rw [if_pos hin] at hlocal
    refine ⟨zone, _, hzone, (separated_of_read hdb hf hr hzone).reads_atLocal _, ?_⟩
    rw [hlocal]
    rfl
  · rename_i hout
    rw [if_neg hout] at hlocal
    rw [hlocal, hspec]

/-- Day zero of month 13 of 2021 is the last day of that year, and 25:61:61 on that day is two minutes and a second past two on
New Year's Day, here in New York. -/
theorem readInstant_rolledOver_newYear :
    ∃ f o, DateFormat.lenient .bare (some "yyyy-MM-dd HH:mm:ss")
        (some "America/New_York") = .ok f ∧
      (Zone.region "America/New_York" Database.newYork).ReadsWith (LocalTime.of ⟨2022, 1, 1⟩ 2 2 1 0).seconds o ∧
      f.readInstant .bare "2021-13-00 25:61:61" =
        .ok ((LocalTime.of ⟨2022, 1, 1⟩ 2 2 1 0).millis - 1000 * o.offset) := by
  have hf : DateFormat.lenient .bare (some "yyyy-MM-dd HH:mm:ss")
      (some "America/New_York") = .ok
        ⟨⟨"yyyy-MM-dd HH:mm:ss", some "America/New_York"⟩, "en", some (.region "America/New_York" Database.newYork),
          ⟨"yyyy-MM-dd HH:mm:ss",
            [.field .year 4, .literal ['-'], .field .month 2, .literal ['-'], .field .day 2, .literal [' '],
              .field .hour 2, .literal [':'], .field .minute 2, .literal [':'], .field .second 2], .english, true⟩⟩ :=
    eq_ok_of_toOption (by decide +kernel)
  have hrolled : (⟨some 2021, some 13, some 0, none, some 25, some 61, some 61, none, none⟩ : Reading).rolledOver =
      .of ⟨2022, 1, 1⟩ 2 2 1 0 := by
    decide +kernel
  have h := (@readInstant_rolledOver .bare _ _ _ "2021-13-00 25:61:61"
    ⟨some 2021, some 13, some 0, none, some 25, some 61, some 61, none, none⟩ Database.isSound_listed.separated hf
    (eq_ok_of_toOption (by decide +kernel))).1
  rw [hrolled, if_pos (by decide +kernel)] at h
  obtain ⟨zone, o, hzone, ho, hinstant⟩ := h
  cases hzone
  exact ⟨_, o, hf, ho, hinstant⟩

end DateFormat

end CivilTime
