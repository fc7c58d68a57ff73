import CivilTime.Zone.History.Table

/-!
# Clock changes: Australia, Antarctica and the Pacific

The histories of the regions: what was observed first, what was observed later, numbered from 1, the UTC seconds of
the changes with the number of what is observed from then on, and the rule for the years after them.
-/

namespace CivilTime.Database

/-- The region Antarctica/Troll. -/
def troll : History := .ofTable
  ⟨0, "-00"⟩
  [⟨0, "+00"⟩]
  [(1108166400, 1)]
  (.seasonal ⟨0, "+00"⟩ ⟨7200, "+02"⟩ ⟨3, 5, 0, 3600⟩ ⟨10, 5, 0, 10800⟩)

/-- The region Australia/Darwin. -/
def darwin : History := .ofTable
  ⟨31400, "LMT"⟩
  [⟨32400, "ACST"⟩, ⟨37800, "ACDT"⟩, ⟨34200, "ACST"⟩]
  [(-2364108200, 1), (-2230189200, 3), (-1672558200, 2), (-1665387000, 3), (-883639800, 2), (-876123000, 3),
   (-860398200, 2), (-844673400, 3), (-828343800, 2), (-813223800, 3)]
  (.steady ⟨34200, "ACST"⟩)

/-- The region Australia/Lord_Howe. -/
def lordHowe : History := .ofTable
  ⟨38180, "LMT"⟩
  [⟨36000, "AEST"⟩, ⟨41400, "+1130"⟩, ⟨37800, "+1030"⟩, ⟨39600, "+11"⟩]
  [(-2364114980, 1), (352216800, 3), (372785400, 2), (384273000, 3), (404839800, 2), (415722600, 3),
   (436289400, 2), (447172200, 3), (467739000, 2), (478621800, 3), (499188600, 4), (511282800, 3),
   (530033400, 4), (542732400, 3), (562087800, 4), (574786800, 3), (594142200, 4), (606236400, 3),
   (625591800, 4), (636476400, 3), (657041400, 4), (667926000, 3), (688491000, 4), (699375600, 3),
   (719940600, 4), (731430000, 3), (751995000, 4), (762879600, 3), (783444600, 4), (794329200, 3),
   (814894200, 4), (828198000, 3), (846343800, 4), (859647600, 3), (877793400, 4), (891097200, 3),
   (909243000, 4), (922546800, 3), (941297400, 4), (953996400, 3), (967303800, 4), (985446000, 3),
   (1004196600, 4), (1017500400, 3), (1035646200, 4), (1048950000, 3), (1067095800, 4), (1080399600, 3),
   (1099150200, 4), (1111849200, 3), (1130599800, 4), (1143903600, 3), (1162049400, 4), (1174748400, 3),
   (1193499000, 4), (1207407600, 3)]
  (.seasonal ⟨37800, "+1030"⟩ ⟨39600, "+11"⟩ ⟨10, 1, 0, 7200⟩ ⟨4, 1, 0, 7200⟩)

/-- The region Australia/Sydney. -/
def sydney : History := .ofTable
  ⟨36292, "LMT"⟩
  [⟨39600, "AEDT"⟩, ⟨36000, "AEST"⟩]
  [(-2364113092, 2), (-1672560000, 1), (-1665388800, 2), (-883641600, 1), (-876124800, 2), (-860400000, 1),
   (-844675200, 2), (-828345600, 1), (-813225600, 2), (57686400, 1), (67968000, 2), (89136000, 1),
   (100022400, 2), (120585600, 1), (131472000, 2), (152035200, 1), (162921600, 2), (183484800, 1),
   (194976000, 2), (215539200, 1), (226425600, 2), (246988800, 1), (257875200, 2), (278438400, 1),
   (289324800, 2), (309888000, 1), (320774400, 2), (341337600, 1), (352224000, 2), (372787200, 1),
   (386697600, 2), (404841600, 1), (415728000, 2), (436291200, 1), (447177600, 2), (467740800, 1),
   (478627200, 2), (499190400, 1), (511286400, 2), (530035200, 1), (542736000, 2), (562089600, 1),
   (574790400, 2), (594144000, 1), (606240000, 2), (625593600, 1), (636480000, 2), (657043200, 1),
   (667929600, 2), (688492800, 1), (699379200, 2), (719942400, 1), (731433600, 2), (751996800, 1),
   (762883200, 2), (783446400, 1), (794332800, 2), (814896000, 1), (828201600, 2), (846345600, 1),
   (859651200, 2), (877795200, 1), (891100800, 2), (909244800, 1), (922550400, 2), (941299200, 1),
   (954000000, 2), (967305600, 1), (985449600, 2), (1004198400, 1), (1017504000, 2), (1035648000, 1),
   (1048953600, 2), (1067097600, 1), (1080403200, 2), (1099152000, 1), (1111852800, 2), (1130601600, 1),
   (1143907200, 2), (1162051200, 1), (1174752000, 2), (1193500800, 1), (1207411200, 2)]
  (.seasonal ⟨36000, "AEST"⟩ ⟨39600, "AEDT"⟩ ⟨10, 1, 0, 7200⟩ ⟨4, 1, 0, 10800⟩)

/-- The region Pacific/Apia. -/
def apia : History := .ofTable
  ⟨45184, "LMT"⟩
  [⟨-41216, "LMT"⟩, ⟨-41400, "-1130"⟩, ⟨-36000, "-10"⟩, ⟨-39600, "-11"⟩, ⟨46800, "+13"⟩, ⟨50400, "+14"⟩]
  [(-2445424384, 1), (-1861878784, 2), (-631110600, 4), (1285498800, 3), (1301752800, 4), (1316872800, 3),
   (1325239200, 6), (1333202400, 5), (1348927200, 6), (1365256800, 5), (1380376800, 6), (1396706400, 5),
   (1411826400, 6), (1428156000, 5), (1443276000, 6), (1459605600, 5), (1474725600, 6), (1491055200, 5),
   (1506175200, 6), (1522504800, 5), (1538229600, 6), (1554559200, 5), (1569679200, 6), (1586008800, 5),
   (1601128800, 6), (1617458400, 5)]
  (.steady ⟨46800, "+13"⟩)

/-- The region Pacific/Auckland. -/
def auckland : History := .ofTable
  ⟨41944, "LMT"⟩
  [⟨45000, "NZST"⟩, ⟨41400, "NZMT"⟩, ⟨43200, "NZST"⟩, ⟨46800, "NZDT"⟩, ⟨43200, "NZST"⟩]
  [(-3192435544, 2), (-1330335000, 1), (-1320057000, 2), (-1300699800, 3), (-1287396000, 2),
   (-1269250200, 3), (-1255946400, 2), (-1237800600, 3), (-1224496800, 2), (-1206351000, 3),
   (-1192442400, 2), (-1174901400, 3), (-1160992800, 2), (-1143451800, 3), (-1125914400, 2),
   (-1112607000, 3), (-1094464800, 2), (-1081157400, 3), (-1063015200, 2), (-1049707800, 3),
   (-1031565600, 2), (-1018258200, 3), (-1000116000, 2), (-986808600, 3), (-968061600, 2), (-955359000, 3),
   (-936612000, 2), (-923304600, 3), (-757425600, 5), (152632800, 4), (162309600, 5), (183477600, 4),
   (194968800, 5), (215532000, 4), (226418400, 5), (246981600, 4), (257868000, 5), (278431200, 4),
   (289317600, 5), (309880800, 4), (320767200, 5), (341330400, 4), (352216800, 5), (372780000, 4),
   (384271200, 5), (404834400, 4), (415720800, 5), (436284000, 4), (447170400, 5), (467733600, 4),
   (478620000, 5), (499183200, 4), (510069600, 5), (530632800, 4), (541519200, 5), (562082400, 4),
   (573573600, 5), (594136800, 4), (605023200, 5), (623772000, 4), (637682400, 5), (655221600, 4),
   (669132000, 5), (686671200, 4), (700581600, 5), (718120800, 4), (732636000, 5), (749570400, 4),
   (764085600, 5), (781020000, 4), (795535200, 5), (812469600, 4), (826984800, 5), (844524000, 4),
   (858434400, 5), (875973600, 4), (889884000, 5), (907423200, 4), (921938400, 5), (938872800, 4),
   (953388000, 5), (970322400, 4), (984837600, 5), (1002376800, 4), (1016287200, 5), (1033826400, 4),
   (1047736800, 5), (1065276000, 4), (1079791200, 5), (1096725600, 4), (1111240800, 5), (1128175200, 4),
   (1142690400, 5), (1159624800, 4), (1174140000, 5), (1191074400, 4)]
  (.seasonal ⟨43200, "NZST"⟩ ⟨46800, "NZDT"⟩ ⟨9, 5, 0, 7200⟩ ⟨4, 1, 0, 10800⟩)

/-- The region Pacific/Chatham. -/
def chatham : History := .ofTable
  ⟨44028, "LMT"⟩
  [⟨44100, "+1215"⟩, ⟨49500, "+1345"⟩, ⟨45900, "+1245"⟩]
  [(-3192437628, 1), (-757426500, 3), (152632800, 2), (162309600, 3), (183477600, 2), (194968800, 3),
   (215532000, 2), (226418400, 3), (246981600, 2), (257868000, 3), (278431200, 2), (289317600, 3),
   (309880800, 2), (320767200, 3), (341330400, 2), (352216800, 3), (372780000, 2), (384271200, 3),
   (404834400, 2), (415720800, 3), (436284000, 2), (447170400, 3), (467733600, 2), (478620000, 3),
   (499183200, 2), (510069600, 3), (530632800, 2), (541519200, 3), (562082400, 2), (573573600, 3),
   (594136800, 2), (605023200, 3), (623772000, 2), (637682400, 3), (655221600, 2), (669132000, 3),
   (686671200, 2), (700581600, 3), (718120800, 2), (732636000, 3), (749570400, 2), (764085600, 3),
   (781020000, 2), (795535200, 3), (812469600, 2), (826984800, 3), (844524000, 2), (858434400, 3),
   (875973600, 2), (889884000, 3), (907423200, 2), (921938400, 3), (938872800, 2), (953388000, 3),
   (970322400, 2), (984837600, 3), (1002376800, 2), (1016287200, 3), (1033826400, 2), (1047736800, 3),
   (1065276000, 2), (1079791200, 3), (1096725600, 2), (1111240800, 3), (1128175200, 2), (1142690400, 3),
   (1159624800, 2), (1174140000, 3), (1191074400, 2)]
  (.seasonal ⟨45900, "+1245"⟩ ⟨49500, "+1345"⟩ ⟨9, 5, 0, 9900⟩ ⟨4, 1, 0, 13500⟩)

/-- The region Pacific/Guadalcanal. -/
def guadalcanal : History := .ofTable
  ⟨38388, "LMT"⟩
  [⟨39600, "+11"⟩]
  [(-1806748788, 1)]
  (.steady ⟨39600, "+11"⟩)

/-- The region Pacific/Kiritimati. -/
def kiritimati : History := .ofTable
  ⟨-37760, "LMT"⟩
  [⟨-38400, "-1040"⟩, ⟨-36000, "-10"⟩, ⟨50400, "+14"⟩]
  [(-2177415040, 1), (307622400, 2), (788868000, 3)]
  (.steady ⟨50400, "+14"⟩)

end CivilTime.Database
