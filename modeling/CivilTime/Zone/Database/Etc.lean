import CivilTime.Zone.History.Table

/-!
# Clock changes: Zones of no place

The histories of the regions: what was observed first, what was observed later, numbered from 1, the UTC seconds of
the changes with the number of what is observed from then on, and the rule for the years after them.
-/

namespace CivilTime.Database

/-- The region EET. -/
def eet : History := .ofTable
  ⟨5692, "LMT"⟩
  [⟨5692, "AMT"⟩, ⟨10800, "EEST"⟩, ⟨7200, "EET"⟩, ⟨3600, "CET"⟩, ⟨7200, "CEST"⟩]
  [(-2344642492, 1), (-1686101632, 3), (-1182996000, 2), (-1178161200, 3), (-906861600, 2), (-904878000, 5),
   (-857257200, 4), (-844477200, 5), (-828237600, 4), (-812422800, 3), (-552362400, 2), (-541652400, 3),
   (166485600, 2), (186184800, 3), (198028800, 2), (213753600, 3), (228873600, 2), (244080000, 3),
   (260323200, 2), (275446800, 3), (291798000, 2), (307407600, 3), (323388000, 2), (338936400, 3),
   (354675600, 2), (370400400, 3), (386125200, 2), (401850000, 3), (417574800, 2), (433299600, 3),
   (449024400, 2), (465354000, 3), (481078800, 2), (496803600, 3), (512528400, 2), (528253200, 3),
   (543978000, 2), (559702800, 3), (575427600, 2), (591152400, 3), (606877200, 2), (622602000, 3),
   (638326800, 2), (654656400, 3), (670381200, 2), (686106000, 3), (701830800, 2), (717555600, 3),
   (733280400, 2), (749005200, 3), (764730000, 2), (780454800, 3), (796179600, 2), (811904400, 3),
   (828234000, 2)]
  (.seasonal ⟨7200, "EET"⟩ ⟨10800, "EEST"⟩ ⟨3, 5, 0, 10800⟩ ⟨10, 5, 0, 14400⟩)

/-- The region EST. -/
def est : History := .ofTable
  ⟨-19088, "LMT"⟩
  [⟨-19176, "CMT"⟩, ⟨-18000, "EST"⟩]
  [(-2524502512, 1), (-1946918424, 2)]
  (.steady ⟨-18000, "EST"⟩)

/-- The region Etc/GMT+5. -/
def west5 : History := .ofTable
  ⟨-18000, "-05"⟩
  []
  []
  (.steady ⟨-18000, "-05"⟩)

/-- The region Etc/GMT-14. -/
def east14 : History := .ofTable
  ⟨50400, "+14"⟩
  []
  []
  (.steady ⟨50400, "+14"⟩)

/-- The regions Etc/UTC, UTC and Zulu. -/
def utc : History := .ofTable
  ⟨0, "UTC"⟩
  []
  []
  (.steady ⟨0, "UTC"⟩)

/-- The region Factory. -/
def factory : History := .ofTable
  ⟨0, "-00"⟩
  []
  []
  (.steady ⟨0, "-00"⟩)

/-- The regions GMT, GMT+0 and GMT0. -/
def gmt : History := .ofTable
  ⟨0, "GMT"⟩
  []
  []
  (.steady ⟨0, "GMT"⟩)

/-- The region HST. -/
def hst : History := .ofTable
  ⟨-37886, "LMT"⟩
  [⟨-37800, "HST"⟩, ⟨-34200, "HDT"⟩, ⟨-34200, "HWT"⟩, ⟨-34200, "HPT"⟩, ⟨-36000, "HST"⟩]
  [(-2334101314, 1), (-1157283000, 2), (-1155436200, 1), (-880198200, 3), (-769395600, 4), (-765376200, 1),
   (-712150200, 5)]
  (.steady ⟨-36000, "HST"⟩)

end CivilTime.Database
