import CivilTime.Zone.Database
import CivilTime.Zone.Database.Africa
import CivilTime.Zone.Database.America
import CivilTime.Zone.Database.Asia
import CivilTime.Zone.Database.Etc
import CivilTime.Zone.Database.Europe
import CivilTime.Zone.Database.Pacific

/-!
# The listed regions

A database of some sixty regions (`Database.listed`), with every name of them on offer. Several names may stand for one history.
-/

namespace CivilTime

/-- The listed regions by name. -/
def listedRegions : List (String × History) := [
  ("Africa/Addis_Ababa", Database.addisAbaba), ("Africa/Cairo", Database.cairo),
  ("Africa/Harare", Database.harare), ("Africa/Monrovia", Database.monrovia),
  ("America/Anchorage", Database.anchorage), ("America/Argentina/Buenos_Aires", Database.buenosAires),
  ("America/Caracas", Database.caracas), ("America/Chicago", Database.chicago),
  ("America/Indiana/Indianapolis", Database.indianapolis), ("America/Los_Angeles", Database.losAngeles),
  ("US/Pacific", Database.losAngeles), ("America/New_York", Database.newYork), ("EST5EDT", Database.newYork),
  ("America/Phoenix", Database.phoenix), ("MST", Database.phoenix),
  ("America/Puerto_Rico", Database.puertoRico), ("America/Sao_Paulo", Database.saoPaulo),
  ("America/St_Johns", Database.stJohns), ("Antarctica/Troll", Database.troll),
  ("Australia/Darwin", Database.darwin), ("Australia/Lord_Howe", Database.lordHowe),
  ("Australia/Sydney", Database.sydney), ("Pacific/Apia", Database.apia),
  ("Pacific/Auckland", Database.auckland), ("Pacific/Chatham", Database.chatham),
  ("Pacific/Guadalcanal", Database.guadalcanal), ("Pacific/Kiritimati", Database.kiritimati),
  ("Asia/Dhaka", Database.dhaka), ("Asia/Ho_Chi_Minh", Database.hoChiMinh),
  ("Asia/Karachi", Database.karachi), ("Asia/Kathmandu", Database.kathmandu),
  ("Asia/Kolkata", Database.kolkata), ("Asia/Shanghai", Database.shanghai), ("Asia/Tehran", Database.tehran),
  ("Asia/Tokyo", Database.tokyo), ("Japan", Database.tokyo), ("Asia/Yerevan", Database.yerevan),
  ("CET", Database.cet), ("Europe/Amsterdam", Database.cet), ("MET", Database.cet),
  ("Europe/Berlin", Database.berlin), ("Europe/Dublin", Database.dublin), ("Europe/Lisbon", Database.lisbon),
  ("WET", Database.lisbon), ("Europe/London", Database.london), ("GB", Database.london),
  ("Europe/Moscow", Database.moscow), ("W-SU", Database.moscow), ("Europe/Paris", Database.paris),
  ("EET", Database.eet), ("EST", Database.est), ("Etc/GMT+5", Database.west5),
  ("Etc/GMT-14", Database.east14), ("Etc/UTC", Database.utc), ("UTC", Database.utc), ("Zulu", Database.utc),
  ("Factory", Database.factory), ("GMT", Database.gmt), ("GMT+0", Database.gmt), ("GMT0", Database.gmt),
  ("HST", Database.hst)]

/-- The database of the listed regions. -/
def Database.listed : Database :=
  ⟨listedRegions, listedRegions.map Prod.fst⟩

end CivilTime
