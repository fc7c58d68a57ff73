import CivilTime.Zone.History.Table

/-!
# Clock changes: Africa

The histories of the regions: what was observed first, what was observed later, numbered from 1, the UTC seconds of
the changes with the number of what is observed from then on, and the rule for the years after them.
-/

namespace CivilTime.Database

/-- The region Africa/Addis_Ababa. -/
def addisAbaba : History := .ofTable
  ⟨8836, "LMT"⟩
  [⟨9000, "+0230"⟩, ⟨10800, "EAT"⟩, ⟨9900, "+0245"⟩]
  [(-1946168836, 1), (-1309746600, 2), (-1261969200, 1), (-1041388200, 3), (-865305900, 2)]
  (.steady ⟨10800, "EAT"⟩)

/-- The region Africa/Cairo. -/
def cairo : History := .ofTable
  ⟨7509, "LMT"⟩
  [⟨10800, "EEST"⟩, ⟨7200, "EET"⟩]
  [(-2185409109, 2), (-929844000, 1), (-923108400, 2), (-906170400, 1), (-892868400, 2), (-875844000, 1),
   (-857790000, 2), (-844308000, 1), (-825822000, 2), (-812685600, 1), (-794199600, 2), (-779853600, 1),
   (-762663600, 2), (-399088800, 1), (-386650800, 2), (-368330400, 1), (-355114800, 2), (-336790800, 1),
   (-323654400, 2), (-305168400, 1), (-292032000, 2), (-273632400, 1), (-260496000, 2), (-242096400, 1),
   (-228960000, 2), (-210560400, 1), (-197424000, 2), (-178938000, 1), (-165801600, 2), (-147402000, 1),
   (-134265600, 2), (-115866000, 1), (-102643200, 2), (-84330000, 1), (-71107200, 2), (-52707600, 1),
   (-39484800, 2), (-21171600, 1), (-7948800, 2), (10364400, 1), (23587200, 2), (41900400, 1), (55123200, 2),
   (73522800, 1), (86745600, 2), (105058800, 1), (118281600, 2), (136594800, 1), (149817600, 2),
   (168130800, 1), (181353600, 2), (199753200, 1), (212976000, 2), (231289200, 1), (244512000, 2),
   (262825200, 1), (276048000, 2), (294361200, 1), (307584000, 2), (325983600, 1), (339206400, 2),
   (357519600, 1), (370742400, 2), (396399600, 1), (402278400, 2), (426812400, 1), (433814400, 2),
   (452214000, 1), (465436800, 2), (483750000, 1), (496972800, 2), (515286000, 1), (528508800, 2),
   (546822000, 1), (560044800, 2), (578444400, 1), (591667200, 2), (610412400, 1), (623203200, 2),
   (641516400, 1), (654739200, 2), (673052400, 1), (686275200, 2), (704674800, 1), (717897600, 2),
   (736210800, 1), (749433600, 2), (767746800, 1), (780969600, 2), (799020000, 1), (812322000, 2),
   (830469600, 1), (843771600, 2), (861919200, 1), (875221200, 2), (893368800, 1), (906670800, 2),
   (925423200, 1), (938725200, 2), (956872800, 1), (970174800, 2), (988322400, 1), (1001624400, 2),
   (1019772000, 1), (1033074000, 2), (1051221600, 1), (1064523600, 2), (1083276000, 1), (1096578000, 2),
   (1114725600, 1), (1128027600, 2), (1146175200, 1), (1158872400, 2), (1177624800, 1), (1189112400, 2),
   (1209074400, 1), (1219957200, 2), (1240524000, 1), (1250802000, 2), (1272578400, 1), (1281474000, 2),
   (1284069600, 1), (1285880400, 2), (1400191200, 1), (1403816400, 2), (1406844000, 1), (1411678800, 2),
   (1682632800, 1)]
  (.seasonal ⟨7200, "EET"⟩ ⟨10800, "EEST"⟩ ⟨4, 5, 5, 0⟩ ⟨10, 5, 4, 86400⟩)

/-- The region Africa/Harare. -/
def harare : History := .ofTable
  ⟨7818, "LMT"⟩
  [⟨7200, "CAT"⟩]
  [(-1924999818, 1)]
  (.steady ⟨7200, "CAT"⟩)

/-- The region Africa/Monrovia. -/
def monrovia : History := .ofTable
  ⟨-2588, "LMT"⟩
  [⟨-2588, "MMT"⟩, ⟨-2670, "MMT"⟩, ⟨0, "GMT"⟩]
  [(-2776979812, 1), (-1604359012, 2), (63593070, 3)]
  (.steady ⟨0, "GMT"⟩)

end CivilTime.Database
