import CivilTime.Zone.History

/-!
# Databases of regions

A system keeps the histories of regions by name (`Database.history?`), with exact letter case. The names on offer, which are
searched where letter case does not count, are a list of their own: a region may be there without being on offer.
-/

namespace CivilTime

/-- A database of regions. -/
structure Database where
  /-- The regions by name, each with its history. -/
  regions : List (String × History)
  /-- The names on offer. -/
  available : List String
  deriving DecidableEq, Repr

/-- The history of the region of that name. -/
def Database.history? (db : Database) (name : String) : Option History :=
  db.regions.lookup name

end CivilTime
