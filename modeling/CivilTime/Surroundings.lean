import CivilTime.Error
import CivilTime.Locale
import CivilTime.Text.Blank

/-!
# Surroundings

What an operation takes from the system it runs on, as a value: variables of the environment, the system's settings for
the time zone, the date of today, and the database of regions. From them follow the locale (`Surroundings.locale`) and the
zone (`Surroundings.zone`) that hold where a caller names none.
-/

namespace CivilTime

/-- The system's file with the name of the zone. -/
inductive ZoneFile where
  /-- There is no such file, or it cannot be opened. -/
  | absent
  /-- A file of text. -/
  | text (content : String)
  /-- A file of bytes that are no text. -/
  | undecodable
  deriving DecidableEq, Repr

/-- The content, if there is a file of text. -/
def ZoneFile.content? : ZoneFile → Option String
  | .text content => some content
  | .absent | .undecodable => none

/-- A file of text or none. -/
instance : Coe (Option String) ZoneFile where
  coe
    | some content => .text content
    | none => .absent

/-- The settings of the system. -/
structure Surroundings where
  /-- The environment variables for the locale, the first ones deciding: `LC_ALL`, `LC_TIME` and `LANG`. -/
  localeSettings : List (Option String)
  /-- The environment variable `TZ`. -/
  zoneSetting : Option String
  /-- The system's file with the name of the zone. -/
  zoneFile : ZoneFile
  /-- The place of the system's own zone data. -/
  zoneLink : Option String
  /-- The date of today. -/
  today : Date
  /-- The database of regions. -/
  database : Database := .listed
  deriving DecidableEq, Repr

namespace Surroundings

/-! ### The locale -/

/-- The tag of a locale setting: it ends before an encoding or a modifier, and the settings `C` and `POSIX` mean generic
English. -/
def localeTag (setting : String) : String :=
  let tag := String.ofList ((setting.toList.takeWhile (· != '.')).takeWhile (· != '@'))
  if tag = "C" || tag = "POSIX" then english else tag

/-- The locale of the first setting that is not empty, or generic English. -/
def locale (s : Surroundings) : String :=
  match s.localeSettings.findSome? fun setting => setting.filter (· != "") with
  | some setting => localeTag setting
  | none => english

/-! ### The zone -/

/-- The texts that may name the system's zone, the first ones deciding. -/
def zoneCandidates (s : Surroundings) : List (List Char) :=
  ((s.zoneSetting.filter (· != "")).map fun text => text.toList.dropWhile (· == ':')).toList ++
    (s.zoneFile.content?.map fun text => stripped (firstLine text.toList)).toList ++
    (s.zoneLink.map String.toList).toList

/-- The name that a candidate gives: what follows the directory of zone data, or all of it. -/
def zoneNameOf (candidate : List Char) : String :=
  String.ofList ((textAfter? "zoneinfo/".toList candidate).getD candidate)

/-- The name of the system's zone, where its file can be read: the first candidate that names a region, or `UTC`. -/
def zoneName (s : Surroundings) : String :=
  ((s.zoneCandidates.map zoneNameOf).find? fun name => name != "" && (s.database.history? name).isSome).getD "UTC"

/-- The system's zone. The file with its name is read in any case, and must be text. -/
def zone (s : Surroundings) : Except Error Zone :=
  if s.zoneFile = .undecodable then .error (.unconverted .zoneFile) else resolveZone s.zoneName s.database

end Surroundings

/-- A system without settings, with the listed regions, on the first day of 2021. -/
def Surroundings.bare : Surroundings := ⟨[], none, .absent, none, ⟨2021, 1, 1⟩, .listed⟩

end CivilTime
