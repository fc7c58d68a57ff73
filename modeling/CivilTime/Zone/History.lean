import CivilTime.Calendar.Date

/-!
# The history of a region's clocks

A region observes one offset from UTC after another. Its history lists the changes by the UTC second at which each took
place; after the last listed change a rule holds that gives the offset for every later year. `History.atUtc` finds what
is observed at a UTC second, and whether the local time is then being run through for the second time.
`History.atLocal` finds what is observed at a local second: where the local time is skipped or repeated it takes the
offset before the change on the first pass and the offset after it on the second.
-/

namespace CivilTime

/-- What the clocks of a region show: their offset from UTC in seconds, to the east, and its abbreviation. -/
structure Observance where
  offset : Int
  name : String
  deriving DecidableEq, Repr

/-- A change of the clocks at a UTC second, given by what is observed from then on. -/
structure Change where
  second : Int
  observance : Observance
  deriving DecidableEq, Repr

/-- A yearly date and time: the `week`-th weekday of a month (0 is Sunday; the fifth is the last one), `time` seconds
after midnight. -/
structure YearlyTime where
  month : Nat
  week : Nat
  weekday : Nat
  time : Int
  deriving DecidableEq, Repr

/-- The rule for the years after the listed changes: one observance throughout, or two that take turns every year. The
start is given in the local time of the standard observance, the finish in that of the seasonal one. -/
inductive ClosingRule where
  | steady (observance : Observance)
  | seasonal (standard season : Observance) (start finish : YearlyTime)
  deriving DecidableEq, Repr

/-- The changes of a region's clocks. -/
structure History where
  /-- What was observed before the first change. -/
  first : Observance
  /-- The listed changes, in the order of time. -/
  changes : List Change
  /-- What holds after the last listed change. -/
  rule : ClosingRule
  deriving DecidableEq, Repr

/-- The year in which a second lies that is counted from the start of 1970. -/
def yearOfSecond (second : Int) : Int :=
  (Date.ofDay (second / 86400)).year

/-! ### The closing rule -/

/-- The day of the month on which the yearly time falls. -/
def YearlyTime.day (t : YearlyTime) (year : Int) : Nat :=
  let firstWeekday := ((Date.toDay ⟨year, t.month, 1⟩ + 4) % 7).toNat
  let day := (t.weekday + 7 - firstWeekday) % 7 + 1 + 7 * (t.week - 1)
  if monthLength year t.month < day then day - 7 else day

/-- The local second at which the yearly time falls. -/
def YearlyTime.second (t : YearlyTime) (year : Int) : Int :=
  Date.toDay ⟨year, t.month, t.day year⟩ * 86400 + t.time

/-- Whether `second` lies in the season that runs from `start` to `finish`, across the turn of the year if the start
comes later. -/
def inSeason (start finish second : Int) : Bool :=
  if start < finish then start ≤ second && second < finish else second < finish || start ≤ second

/-- What the rule gives for a UTC second, and whether the local time is run through for the second time. -/
def ClosingRule.atUtc (rule : ClosingRule) (second : Int) : Observance × Bool :=
  match rule with
  | .steady observance => (observance, false)
  | .seasonal standard season start finish =>
    let year := yearOfSecond second
    let start := start.second year - standard.offset
    let finish := finish.second year - season.offset
    let gain := season.offset - standard.offset
    let back := if 0 < gain then finish else start
    (if inSeason start finish second then season else standard,
      back ≤ second && second < back + gain.natAbs)

/-- What the rule gives for a local second on its first or second pass. -/
def ClosingRule.atLocal (rule : ClosingRule) (secondPass : Bool) (second : Int) : Observance :=
  match rule with
  | .steady observance => observance
  | .seasonal standard season start finish =>
    let year := yearOfSecond second
    let gain := season.offset - standard.offset
    let start := start.second year
    let finish := finish.second year
    let inside :=
      if secondPass == decide (0 ≤ gain) then inSeason start (finish - gain) second
      else inSeason (start + gain) finish second
    if inside then season else standard

/-! ### The listed changes -/

/-- What is observed at a UTC second from which on `current` is listed since `since` and `previous` was observed before,
followed by further changes. Strictly after the last change the rule decides; its first stretch may repeat local times
of the observance before the last change. -/
def afterChange (rule : ClosingRule) (second : Int) (previous : Observance) (since : Int) (current : Observance) :
    List Change → Observance × Bool
  | [] =>
    if second = since then (current, decide (0 < previous.offset - current.offset))
    else
      let ruled := rule.atUtc second
      (ruled.1, ruled.2 || decide (second < since + (previous.offset - ruled.1.offset)))
  | next :: changes =>
    if second < next.second then (current, decide (second - since < previous.offset - current.offset))
    else afterChange rule second current next.second next.observance changes

/-- What is observed at a UTC second, and whether the local time is then run through for the second time. -/
def History.atUtc (h : History) (second : Int) : Observance × Bool :=
  match h.changes with
  | [] => h.rule.atUtc second
  | change :: changes =>
    if second < change.second then (h.first, false)
    else afterChange h.rule second h.first change.second change.observance changes

/-- The local second from which on a change counts: on the first pass the clock of the later reading decides, on the
second pass that of the earlier one. -/
def Change.localSecond (change : Change) (secondPass : Bool) (previous : Observance) : Int :=
  change.second +
    if secondPass then min previous.offset change.observance.offset else max previous.offset change.observance.offset

/-- What is observed at a local second at or after the local second `since` of a change to `current`, followed by
further changes. -/
def afterLocalChange (rule : ClosingRule) (secondPass : Bool) (second since : Int) (current : Observance) :
    List Change → Observance
  | [] => if second = since then current else rule.atLocal secondPass second
  | next :: changes =>
    let threshold := next.localSecond secondPass current
    if second < threshold then current
    else afterLocalChange rule secondPass second threshold next.observance changes

/-- What is observed at a local second on its first or second pass. -/
def History.atLocal (h : History) (secondPass : Bool) (second : Int) : Observance :=
  match h.changes with
  | [] => h.rule.atLocal secondPass second
  | change :: changes =>
    let threshold := change.localSecond secondPass h.first
    if second < threshold then h.first
    else afterLocalChange h.rule secondPass second threshold change.observance changes

end CivilTime
