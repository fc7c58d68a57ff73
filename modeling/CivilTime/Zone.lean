import CivilTime.Zone.Database.Listed
import CivilTime.Zone.Offset

/-!
# Time zones

A zone is a fixed offset with a name, or a region of a database with the history of its clocks. `resolveZone?` finds
the zone that a caller names, `readZone?` the zone that stands in date text: there an abbreviation such as PST is a
fixed offset, also in summer, and letter case may be ignored (`canonicalZoneText`). Where no database is given, it is that
of the listed regions. A zone is identified by its name (`Zone.id`).
-/

namespace CivilTime

/-- A time zone. -/
inductive Zone where
  | fixed (offset : Int) (name : String)
  | region (name : String) (history : History)
  deriving DecidableEq, Repr

namespace Zone

/-- Coordinated universal time. -/
def utc : Zone := .fixed 0 "UTC"

/-- The zone of a named offset. -/
def ofOffset (o : NamedOffset) : Zone := .fixed o.offset o.name

/-- The name of a zone: the name of its offset or region. -/
def id : Zone → String
  | .fixed _ name => name
  | .region name _ => name

/-- What a zone observes at a UTC second, and whether the local time is then run through for the second time. -/
def atUtc : Zone → Int → Observance × Bool
  | .fixed offset name, _ => (⟨offset, name⟩, false)
  | .region _ history, second => history.atUtc second

/-- What a zone observes at a local second on its first or second pass. -/
def atLocal : Zone → Bool → Int → Observance
  | .fixed offset name, _, _ => ⟨offset, name⟩
  | .region _ history, secondPass, second => history.atLocal secondPass second

end Zone

/-! ### Names of zones -/

/-- Old names of three letters for regions. -/
def shortRegionNames : List (String × String) := [
  ("ACT", "Australia/Darwin"), ("AET", "Australia/Sydney"), ("AGT", "America/Argentina/Buenos_Aires"),
  ("ART", "Africa/Cairo"), ("AST", "America/Anchorage"), ("BET", "America/Sao_Paulo"), ("BST", "Asia/Dhaka"),
  ("CAT", "Africa/Harare"), ("CNT", "America/St_Johns"), ("CST", "America/Chicago"), ("CTT", "Asia/Shanghai"),
  ("EAT", "Africa/Addis_Ababa"), ("ECT", "Europe/Paris"), ("IET", "America/Indiana/Indianapolis"),
  ("IST", "Asia/Kolkata"), ("JST", "Asia/Tokyo"), ("MIT", "Pacific/Apia"), ("NET", "Asia/Yerevan"),
  ("NST", "Pacific/Auckland"), ("PLT", "Asia/Karachi"), ("PNT", "America/Phoenix"), ("PRT", "America/Puerto_Rico"),
  ("PST", "America/Los_Angeles"), ("SST", "Pacific/Guadalcanal"), ("VST", "Asia/Ho_Chi_Minh")]

/-- Old names of three letters for fixed offsets. -/
def shortOffsetNames : List (String × Int) := [("EST", -18000), ("MST", -25200), ("HST", -36000)]

/-- The abbreviations that may stand in date text, with the offsets they stand for. -/
def abbreviations : List (String × Int) := [
  ("EST", -18000), ("EDT", -14400), ("CST", -21600), ("CDT", -18000), ("MST", -25200), ("MDT", -21600),
  ("PST", -28800), ("PDT", -25200), ("AKST", -32400), ("AKDT", -28800), ("HST", -36000), ("WET", 0),
  ("WEST", 3600), ("BST", 3600), ("CET", 3600), ("CEST", 7200), ("EET", 7200), ("EEST", 10800), ("SAST", 7200),
  ("MSK", 10800), ("IST", 19800), ("HKT", 28800), ("SGT", 28800), ("JST", 32400), ("KST", 32400),
  ("AEST", 36000), ("AEDT", 39600), ("NZST", 43200), ("NZDT", 46800)]

/-- The region of that name. -/
def Database.zone? (db : Database) (name : String) : Option Zone :=
  (db.history? name).map (.region name)

/-- The name of the region that a caller means, who may use an old name of three letters. -/
def regionName (name : String) : String :=
  (shortRegionNames.lookup name).getD name

/-- The zone that a caller names: by an offset, an old name of three letters, or a region. -/
def resolveZone? (name : String) (db : Database := .listed) : Option Zone :=
  match readOffset? name with
  | some offset => some (.ofOffset offset)
  | none =>
    match shortOffsetNames.lookup name with
    | some offset => some (.fixed offset name)
    | none => db.zone? (regionName name)

/-- The zone that a text in a date names, letter by letter: an offset, an abbreviation or a region. -/
def readExactZone? (db : Database) (text : String) : Option Zone :=
  match readOffset? text with
  | some offset => some (.ofOffset offset)
  | none =>
    match abbreviations.lookup text with
    | some offset => some (.fixed offset text)
    | none => db.zone? text

/-- The text in the letter case in which zones are listed: the capital form of offsets and abbreviations, the text itself if it
names a region, the name on offer with the same lower-case form, and otherwise the text as it is. -/
def canonicalZoneText (db : Database) (text : String) : String :=
  let capitals := String.ofList (upperText text.toList)
  if (readOffset? capitals).isSome || (abbreviations.lookup capitals).isSome then capitals
  else if (db.history? text).isSome then text
  else
    let small := lowerText text.toList
    (db.available.find? fun name => lowerText name.toList == small).getD text

/-- The zone that a text in a date names, exactly or in any letter case. -/
def readZone? (anyCase : Bool) (text : String) (db : Database := .listed) : Option Zone :=
  readExactZone? db (if anyCase then canonicalZoneText db text else text)

end CivilTime
