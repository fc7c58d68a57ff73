/-!
# Names of months and weekdays

Date text names months, weekdays and the halves of the day in English. British English has its own table (`Names.of`),
with `Sept` for September and the halves of the day in small letters.
-/

namespace CivilTime

/-- The names that date text uses: twelve months from January on, seven weekdays from Monday on, each in full and short,
and the two halves of the day. -/
structure Names where
  months : List String
  shortMonths : List String
  weekdays : List String
  shortWeekdays : List String
  forenoon : String
  afternoon : String
  deriving DecidableEq, Repr

/-- The tag of generic English. -/
def english : String := "en"

/-- The tag of British English. -/
def britishEnglish : String := "en_GB"

/-- The names of generic English. -/
def Names.english : Names where
  months := ["January", "February", "March", "April", "May", "June", "July", "August", "September", "October",
    "November", "December"]
  shortMonths := ["Jan", "Feb", "Mar", "Apr", "May", "Jun", "Jul", "Aug", "Sep", "Oct", "Nov", "Dec"]
  weekdays := ["Monday", "Tuesday", "Wednesday", "Thursday", "Friday", "Saturday", "Sunday"]
  shortWeekdays := ["Mon", "Tue", "Wed", "Thu", "Fri", "Sat", "Sun"]
  forenoon := "AM"
  afternoon := "PM"

/-- The names of British English. -/
def Names.british : Names :=
  { Names.english with
    shortMonths := ["Jan", "Feb", "Mar", "Apr", "May", "Jun", "Jul", "Aug", "Sept", "Oct", "Nov", "Dec"]
    forenoon := "am"
    afternoon := "pm" }

/-- The names of a locale; every locale but the British one uses those of generic English. -/
def Names.of (locale : String) : Names :=
  if locale = britishEnglish then .british else .english

/-- The locale whose names are used where texts must not depend on the country: generic English in place of British. -/
def pinnedLocale (locale : String) : String :=
  if locale = britishEnglish then english else locale

theorem names_pinnedLocale (locale : String) : Names.of (pinnedLocale locale) = .english := by
  unfold pinnedLocale Names.of
  split
  · simp [CivilTime.english, britishEnglish]
  · rfl

end CivilTime
