import CivilTime.Zone.History.Table

/-!
# Clock changes: Europe

The histories of the regions: what was observed first, what was observed later, numbered from 1, the UTC seconds of
the changes with the number of what is observed from then on, and the rule for the years after them.
-/

namespace CivilTime.Database

/-- The regions CET, Europe/Amsterdam and MET. -/
def cet : History := .ofTable
  ⟨1050, "LMT"⟩
  [⟨1050, "BMT"⟩, ⟨0, "WET"⟩, ⟨3600, "CET"⟩, ⟨7200, "CEST"⟩, ⟨3600, "WEST"⟩]
  [(-2840141850, 1), (-2450995200, 2), (-1740355200, 3), (-1693702800, 4), (-1680483600, 3),
   (-1663455600, 4), (-1650150000, 3), (-1632006000, 4), (-1618700400, 3), (-1613826000, 2),
   (-1604278800, 5), (-1585530000, 2), (-1574038800, 5), (-1552266000, 2), (-1539997200, 5),
   (-1520557200, 2), (-1507510800, 5), (-1490576400, 2), (-1473642000, 5), (-1459126800, 2),
   (-1444006800, 5), (-1427677200, 2), (-1411952400, 5), (-1396227600, 2), (-1379293200, 5),
   (-1364778000, 2), (-1348448400, 5), (-1333328400, 2), (-1316394000, 5), (-1301263200, 2),
   (-1284328800, 5), (-1269813600, 2), (-1253484000, 5), (-1238364000, 2), (-1221429600, 5),
   (-1206914400, 2), (-1191189600, 5), (-1175464800, 2), (-1160344800, 5), (-1143410400, 2),
   (-1127685600, 5), (-1111960800, 2), (-1096840800, 5), (-1080511200, 2), (-1063576800, 5),
   (-1049061600, 2), (-1033336800, 5), (-1017612000, 2), (-1002492000, 5), (-986162400, 2), (-969228000, 5),
   (-950479200, 2), (-942012000, 5), (-934668000, 4), (-857257200, 3), (-844556400, 4), (-828226800, 3),
   (-812502000, 4), (-798073200, 3), (-781052400, 4), (-766623600, 3), (-745455600, 4), (-733273200, 3),
   (228877200, 4), (243997200, 3), (260326800, 4), (276051600, 3), (291776400, 4), (307501200, 3),
   (323830800, 4), (338950800, 3), (354675600, 4), (370400400, 3), (386125200, 4), (401850000, 3),
   (417574800, 4), (433299600, 3), (449024400, 4), (465354000, 3), (481078800, 4), (496803600, 3),
   (512528400, 4), (528253200, 3), (543978000, 4), (559702800, 3), (575427600, 4), (591152400, 3),
   (606877200, 4), (622602000, 3), (638326800, 4), (654656400, 3), (670381200, 4), (686106000, 3),
   (701830800, 4), (717555600, 3), (733280400, 4), (749005200, 3), (764730000, 4), (780454800, 3),
   (796179600, 4), (811904400, 3), (828234000, 4)]
  (.seasonal ⟨3600, "CET"⟩ ⟨7200, "CEST"⟩ ⟨3, 5, 0, 7200⟩ ⟨10, 5, 0, 10800⟩)

/-- The region Europe/Berlin. -/
def berlin : History := .ofTable
  ⟨3208, "LMT"⟩
  [⟨7200, "CEST"⟩, ⟨3600, "CET"⟩, ⟨10800, "CEMT"⟩]
  [(-2422054408, 2), (-1693706400, 1), (-1680483600, 2), (-1663455600, 1), (-1650150000, 2),
   (-1632006000, 1), (-1618700400, 2), (-938905200, 1), (-857257200, 2), (-844556400, 1), (-828226800, 2),
   (-812502000, 1), (-796777200, 2), (-781052400, 1), (-776563200, 3), (-765936000, 1), (-761180400, 2),
   (-748479600, 1), (-733273200, 2), (-717631200, 1), (-714610800, 3), (-710380800, 1), (-701910000, 2),
   (-684975600, 1), (-670460400, 2), (-654130800, 1), (-639010800, 2), (323830800, 1), (338950800, 2),
   (354675600, 1), (370400400, 2), (386125200, 1), (401850000, 2), (417574800, 1), (433299600, 2),
   (449024400, 1), (465354000, 2), (481078800, 1), (496803600, 2), (512528400, 1), (528253200, 2),
   (543978000, 1), (559702800, 2), (575427600, 1), (591152400, 2), (606877200, 1), (622602000, 2),
   (638326800, 1), (654656400, 2), (670381200, 1), (686106000, 2), (701830800, 1), (717555600, 2),
   (733280400, 1), (749005200, 2), (764730000, 1), (780454800, 2), (796179600, 1), (811904400, 2),
   (828234000, 1)]
  (.seasonal ⟨3600, "CET"⟩ ⟨7200, "CEST"⟩ ⟨3, 5, 0, 7200⟩ ⟨10, 5, 0, 10800⟩)

/-- The region Europe/Dublin. -/
def dublin : History := .ofTable
  ⟨-1521, "LMT"⟩
  [⟨-1521, "DMT"⟩, ⟨2079, "IST"⟩, ⟨3600, "BST"⟩, ⟨0, "GMT"⟩, ⟨3600, "IST"⟩, ⟨0, "GMT"⟩, ⟨3600, "IST"⟩]
  [(-2821649679, 1), (-1691962479, 2), (-1680471279, 4), (-1664143200, 3), (-1650146400, 4),
   (-1633903200, 3), (-1617487200, 4), (-1601848800, 3), (-1586037600, 4), (-1570399200, 3),
   (-1552168800, 4), (-1538344800, 3), (-1522533600, 4), (-1507500000, 5), (-1490565600, 4),
   (-1473631200, 5), (-1460930400, 4), (-1442786400, 5), (-1428876000, 4), (-1410732000, 5),
   (-1396216800, 4), (-1379282400, 5), (-1364767200, 4), (-1348437600, 5), (-1333317600, 4),
   (-1315778400, 5), (-1301263200, 4), (-1284328800, 5), (-1269813600, 4), (-1253484000, 5),
   (-1238364000, 4), (-1221429600, 5), (-1206914400, 4), (-1189980000, 5), (-1175464800, 4),
   (-1159135200, 5), (-1143410400, 4), (-1126476000, 5), (-1111960800, 4), (-1095631200, 5),
   (-1080511200, 4), (-1063576800, 5), (-1049061600, 4), (-1032127200, 5), (-1017612000, 4),
   (-1001282400, 5), (-986162400, 4), (-969228000, 5), (-950479200, 4), (-942012000, 5), (-733356000, 4),
   (-719445600, 5), (-699487200, 4), (-684972000, 5), (-668037600, 4), (-654732000, 5), (-636588000, 4),
   (-622072800, 5), (-605743200, 4), (-590623200, 5), (-574293600, 4), (-558568800, 5), (-542239200, 4),
   (-527119200, 5), (-512604000, 4), (-496274400, 5), (-481154400, 4), (-464220000, 5), (-449704800, 4),
   (-432165600, 5), (-417650400, 4), (-401320800, 5), (-386200800, 4), (-369266400, 5), (-354751200, 4),
   (-337816800, 5), (-323301600, 4), (-306972000, 5), (-291852000, 4), (-276732000, 5), (-257983200, 4),
   (-245282400, 5), (-226533600, 4), (-213228000, 5), (-195084000, 4), (-182383200, 5), (-163634400, 4),
   (-150933600, 5), (-132184800, 4), (-119484000, 5), (-100735200, 4), (-88034400, 5), (-68680800, 4),
   (-59004000, 5), (-37242000, 7), (57722400, 6), (69818400, 7), (89172000, 6), (101268000, 7),
   (120621600, 6), (132717600, 7), (152071200, 6), (164167200, 7), (183520800, 6), (196221600, 7),
   (214970400, 6), (227671200, 7), (246420000, 6), (259120800, 7), (278474400, 6), (290570400, 7),
   (309924000, 6), (322020000, 7), (341373600, 6), (354675600, 7), (372819600, 6), (386125200, 7),
   (404269200, 6), (417574800, 7), (435718800, 6), (449024400, 7), (467773200, 6), (481078800, 7),
   (499222800, 6), (512528400, 7), (530672400, 6), (543978000, 7), (562122000, 6), (575427600, 7),
   (593571600, 6), (606877200, 7), (625626000, 6), (638326800, 7), (657075600, 6), (670381200, 7),
   (688525200, 6), (701830800, 7), (719974800, 6), (733280400, 7), (751424400, 6), (764730000, 7),
   (782874000, 6), (796179600, 7), (814323600, 6), (828234000, 7)]
  (.seasonal ⟨3600, "IST"⟩ ⟨0, "GMT"⟩ ⟨10, 5, 0, 7200⟩ ⟨3, 5, 0, 3600⟩)

/-- The regions Europe/Lisbon and WET. -/
def lisbon : History := .ofTable
  ⟨-2205, "LMT"⟩
  [⟨3600, "WEST"⟩, ⟨0, "WET"⟩, ⟨7200, "WEMT"⟩, ⟨3600, "CET"⟩, ⟨7200, "CEST"⟩]
  [(-2713908195, 0), (-1830384000, 2), (-1689555600, 1), (-1677801600, 2), (-1667433600, 1),
   (-1647738000, 2), (-1635897600, 1), (-1616202000, 2), (-1604361600, 1), (-1584666000, 2),
   (-1572739200, 1), (-1553043600, 2), (-1541203200, 1), (-1521507600, 2), (-1442451600, 1),
   (-1427677200, 2), (-1379293200, 1), (-1364778000, 2), (-1348448400, 1), (-1333328400, 2),
   (-1316394000, 1), (-1301274000, 2), (-1284339600, 1), (-1269824400, 2), (-1221440400, 1),
   (-1206925200, 2), (-1191200400, 1), (-1175475600, 2), (-1127696400, 1), (-1111971600, 2),
   (-1096851600, 1), (-1080522000, 2), (-1063587600, 1), (-1049072400, 2), (-1033347600, 1),
   (-1017622800, 2), (-1002502800, 1), (-986173200, 2), (-969238800, 1), (-950490000, 2), (-942022800, 1),
   (-922496400, 2), (-906944400, 1), (-891133200, 2), (-877309200, 1), (-873684000, 3), (-864007200, 1),
   (-857955600, 2), (-845859600, 1), (-842839200, 3), (-831348000, 1), (-825901200, 2), (-814410000, 1),
   (-810784800, 3), (-799898400, 1), (-794451600, 2), (-782960400, 1), (-779335200, 3), (-768448800, 1),
   (-763002000, 2), (-749091600, 1), (-733366800, 2), (-717631200, 1), (-701906400, 2), (-686181600, 1),
   (-670456800, 2), (-654732000, 1), (-639007200, 2), (-623282400, 1), (-607557600, 2), (-591832800, 1),
   (-575503200, 2), (-559778400, 1), (-544053600, 2), (-528328800, 1), (-512604000, 2), (-496879200, 1),
   (-481154400, 2), (-465429600, 1), (-449704800, 2), (-433980000, 1), (-417650400, 2), (-401925600, 1),
   (-386200800, 2), (-370476000, 1), (-354751200, 2), (-339026400, 1), (-323301600, 2), (-307576800, 1),
   (-291852000, 2), (-276127200, 1), (-260402400, 2), (-244677600, 1), (-228348000, 2), (-212623200, 1),
   (-196898400, 2), (-181173600, 1), (-165448800, 2), (-149724000, 1), (-133999200, 2), (-118274400, 1),
   (-102549600, 4), (212544000, 2), (228268800, 1), (243993600, 2), (260326800, 1), (276051600, 2),
   (291776400, 1), (307501200, 2), (323830800, 1), (338950800, 2), (354672000, 1), (370396800, 2),
   (386121600, 1), (401846400, 2), (417571200, 1), (433296000, 2), (449020800, 1), (465350400, 2),
   (481075200, 1), (496800000, 2), (512528400, 1), (528253200, 2), (543978000, 1), (559702800, 2),
   (575427600, 1), (591152400, 2), (606877200, 1), (622602000, 2), (638326800, 1), (654656400, 2),
   (670381200, 1), (686106000, 2), (701830800, 1), (717555600, 4), (733280400, 5), (749005200, 4),
   (764730000, 5), (780454800, 4), (796179600, 5), (811904400, 4), (828234000, 1)]
  (.seasonal ⟨0, "WET"⟩ ⟨3600, "WEST"⟩ ⟨3, 5, 0, 3600⟩ ⟨10, 5, 0, 7200⟩)

/-- The regions Europe/London and GB. -/
def london : History := .ofTable
  ⟨-75, "LMT"⟩
  [⟨3600, "BST"⟩, ⟨0, "GMT"⟩, ⟨7200, "BDST"⟩, ⟨3600, "BST"⟩]
  [(-3852662325, 2), (-1691964000, 1), (-1680472800, 2), (-1664143200, 1), (-1650146400, 2),
   (-1633903200, 1), (-1617487200, 2), (-1601848800, 1), (-1586037600, 2), (-1570399200, 1),
   (-1552168800, 2), (-1538344800, 1), (-1522533600, 2), (-1507500000, 1), (-1490565600, 2),
   (-1473631200, 1), (-1460930400, 2), (-1442786400, 1), (-1428876000, 2), (-1410732000, 1),
   (-1396216800, 2), (-1379282400, 1), (-1364767200, 2), (-1348437600, 1), (-1333317600, 2),
   (-1315778400, 1), (-1301263200, 2), (-1284328800, 1), (-1269813600, 2), (-1253484000, 1),
   (-1238364000, 2), (-1221429600, 1), (-1206914400, 2), (-1189980000, 1), (-1175464800, 2),
   (-1159135200, 1), (-1143410400, 2), (-1126476000, 1), (-1111960800, 2), (-1095631200, 1),
   (-1080511200, 2), (-1063576800, 1), (-1049061600, 2), (-1032127200, 1), (-1017612000, 2),
   (-1001282400, 1), (-986162400, 2), (-969228000, 1), (-950479200, 2), (-942012000, 1), (-904518000, 3),
   (-896050800, 1), (-875487600, 3), (-864601200, 1), (-844038000, 3), (-832546800, 1), (-812588400, 3),
   (-798073200, 1), (-781052400, 3), (-772066800, 1), (-764805600, 2), (-748476000, 1), (-733356000, 2),
   (-719445600, 1), (-717030000, 3), (-706748400, 1), (-699487200, 2), (-687996000, 1), (-668037600, 2),
   (-654732000, 1), (-636588000, 2), (-622072800, 1), (-605743200, 2), (-590623200, 1), (-574293600, 2),
   (-558568800, 1), (-542239200, 2), (-527119200, 1), (-512604000, 2), (-496274400, 1), (-481154400, 2),
   (-464220000, 1), (-449704800, 2), (-432165600, 1), (-417650400, 2), (-401320800, 1), (-386200800, 2),
   (-369266400, 1), (-354751200, 2), (-337816800, 1), (-323301600, 2), (-306972000, 1), (-291852000, 2),
   (-276732000, 1), (-257983200, 2), (-245282400, 1), (-226533600, 2), (-213228000, 1), (-195084000, 2),
   (-182383200, 1), (-163634400, 2), (-150933600, 1), (-132184800, 2), (-119484000, 1), (-100735200, 2),
   (-88034400, 1), (-68680800, 2), (-59004000, 1), (-37242000, 4), (57722400, 2), (69818400, 1),
   (89172000, 2), (101268000, 1), (120621600, 2), (132717600, 1), (152071200, 2), (164167200, 1),
   (183520800, 2), (196221600, 1), (214970400, 2), (227671200, 1), (246420000, 2), (259120800, 1),
   (278474400, 2), (290570400, 1), (309924000, 2), (322020000, 1), (341373600, 2), (354675600, 1),
   (372819600, 2), (386125200, 1), (404269200, 2), (417574800, 1), (435718800, 2), (449024400, 1),
   (467773200, 2), (481078800, 1), (499222800, 2), (512528400, 1), (530672400, 2), (543978000, 1),
   (562122000, 2), (575427600, 1), (593571600, 2), (606877200, 1), (625626000, 2), (638326800, 1),
   (657075600, 2), (670381200, 1), (688525200, 2), (701830800, 1), (719974800, 2), (733280400, 1),
   (751424400, 2), (764730000, 1), (782874000, 2), (796179600, 1), (814323600, 2), (820454400, 2)]
  (.seasonal ⟨0, "GMT"⟩ ⟨3600, "BST"⟩ ⟨3, 5, 0, 3600⟩ ⟨10, 5, 0, 7200⟩)

/-- The regions Europe/Moscow and W-SU. -/
def moscow : History := .ofTable
  ⟨9017, "LMT"⟩
  [⟨9017, "MMT"⟩, ⟨12679, "MST"⟩, ⟨9079, "MMT"⟩, ⟨16279, "MDST"⟩, ⟨14400, "MSD"⟩, ⟨10800, "MSK"⟩,
   ⟨18000, "+05"⟩, ⟨7200, "EET"⟩, ⟨10800, "EEST"⟩, ⟨14400, "MSK"⟩]
  [(-2840149817, 1), (-1688265017, 3), (-1656819079, 2), (-1641353479, 3), (-1627965079, 4),
   (-1618716679, 2), (-1596429079, 4), (-1593820800, 5), (-1589860800, 6), (-1542427200, 5),
   (-1539493200, 7), (-1525323600, 5), (-1522728000, 6), (-1491188400, 8), (-1247536800, 6), (354920400, 5),
   (370728000, 6), (386456400, 5), (402264000, 6), (417992400, 5), (433800000, 6), (449614800, 5),
   (465346800, 6), (481071600, 5), (496796400, 6), (512521200, 5), (528246000, 6), (543970800, 5),
   (559695600, 6), (575420400, 5), (591145200, 6), (606870000, 5), (622594800, 6), (638319600, 5),
   (654649200, 6), (670374000, 9), (686102400, 8), (695779200, 6), (701823600, 5), (717548400, 6),
   (733273200, 5), (748998000, 6), (764722800, 5), (780447600, 6), (796172400, 5), (811897200, 6),
   (828226800, 5), (846370800, 6), (859676400, 5), (877820400, 6), (891126000, 5), (909270000, 6),
   (922575600, 5), (941324400, 6), (954025200, 5), (972774000, 6), (985474800, 5), (1004223600, 6),
   (1017529200, 5), (1035673200, 6), (1048978800, 5), (1067122800, 6), (1080428400, 5), (1099177200, 6),
   (1111878000, 5), (1130626800, 6), (1143327600, 5), (1162076400, 6), (1174777200, 5), (1193526000, 6),
   (1206831600, 5), (1224975600, 6), (1238281200, 5), (1256425200, 6), (1269730800, 5), (1288479600, 6),
   (1301180400, 10), (1414274400, 6)]
  (.steady ⟨10800, "MSK"⟩)

/-- The region Europe/Paris. -/
def paris : History := .ofTable
  ⟨561, "LMT"⟩
  [⟨561, "PMT"⟩, ⟨3600, "WEST"⟩, ⟨0, "WET"⟩, ⟨3600, "CET"⟩, ⟨7200, "CEST"⟩, ⟨7200, "WEMT"⟩]
  [(-2486592561, 1), (-1855958961, 3), (-1689814800, 2), (-1680397200, 3), (-1665363600, 2),
   (-1648342800, 3), (-1635123600, 2), (-1616893200, 3), (-1604278800, 2), (-1585443600, 3),
   (-1574038800, 2), (-1552266000, 3), (-1539997200, 2), (-1520557200, 3), (-1507510800, 2),
   (-1490576400, 3), (-1470618000, 2), (-1459126800, 3), (-1444006800, 2), (-1427677200, 3),
   (-1411952400, 2), (-1396227600, 3), (-1379293200, 2), (-1364778000, 3), (-1348448400, 2),
   (-1333328400, 3), (-1316394000, 2), (-1301274000, 3), (-1284339600, 2), (-1269824400, 3),
   (-1253494800, 2), (-1238374800, 3), (-1221440400, 2), (-1206925200, 3), (-1191200400, 2),
   (-1175475600, 3), (-1160355600, 2), (-1143421200, 3), (-1127696400, 2), (-1111971600, 3),
   (-1096851600, 2), (-1080522000, 3), (-1063587600, 2), (-1049072400, 3), (-1033347600, 2),
   (-1017622800, 3), (-1002502800, 2), (-986173200, 3), (-969238800, 2), (-950490000, 3), (-942012000, 2),
   (-932436000, 5), (-857257200, 4), (-844556400, 5), (-828226800, 4), (-812502000, 5), (-800071200, 6),
   (-796266000, 2), (-781052400, 6), (-766623600, 4), (196819200, 5), (212540400, 4), (228877200, 5),
   (243997200, 4), (260326800, 5), (276051600, 4), (291776400, 5), (307501200, 4), (323830800, 5),
   (338950800, 4), (354675600, 5), (370400400, 4), (386125200, 5), (401850000, 4), (417574800, 5),
   (433299600, 4), (449024400, 5), (465354000, 4), (481078800, 5), (496803600, 4), (512528400, 5),
   (528253200, 4), (543978000, 5), (559702800, 4), (575427600, 5), (591152400, 4), (606877200, 5),
   (622602000, 4), (638326800, 5), (654656400, 4), (670381200, 5), (686106000, 4), (701830800, 5),
   (717555600, 4), (733280400, 5), (749005200, 4), (764730000, 5), (780454800, 4), (796179600, 5),
   (811904400, 4), (828234000, 5)]
  (.seasonal ⟨3600, "CET"⟩ ⟨7200, "CEST"⟩ ⟨3, 5, 0, 7200⟩ ⟨10, 5, 0, 10800⟩)

end CivilTime.Database
