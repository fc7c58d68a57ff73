import CivilTime.Zone.History.Table

/-!
# Clock changes: America

The histories of the regions: what was observed first, what was observed later, numbered from 1, the UTC seconds of
the changes with the number of what is observed from then on, and the rule for the years after them.
-/

namespace CivilTime.Database

/-- The region America/Anchorage. -/
def anchorage : History := .ofTable
  ⟨50424, "LMT"⟩
  [⟨-35976, "LMT"⟩, ⟨-36000, "AST"⟩, ⟨-32400, "AWT"⟩, ⟨-32400, "APT"⟩, ⟨-36000, "AHST"⟩, ⟨-32400, "AHDT"⟩,
   ⟨-32400, "YST"⟩, ⟨-28800, "AKDT"⟩, ⟨-32400, "AKST"⟩]
  [(-3225223727, 1), (-2188951224, 2), (-880200000, 3), (-769395600, 4), (-765378000, 2), (-86882400, 5),
   (-21470400, 6), (-5749200, 5), (9979200, 6), (25700400, 5), (41428800, 6), (57754800, 5), (73483200, 6),
   (89204400, 5), (104932800, 6), (120654000, 5), (126705600, 6), (152103600, 5), (162388800, 6),
   (183553200, 5), (199281600, 6), (215607600, 5), (230731200, 6), (247057200, 5), (262785600, 6),
   (278506800, 5), (294235200, 6), (309956400, 5), (325684800, 6), (341406000, 5), (357134400, 6),
   (372855600, 5), (388584000, 6), (404910000, 5), (420033600, 6), (436359600, 7), (439030800, 9),
   (452084400, 8), (467805600, 9), (483534000, 8), (499255200, 9), (514983600, 8), (530704800, 9),
   (544618800, 8), (562154400, 9), (576068400, 8), (594208800, 9), (607518000, 8), (625658400, 9),
   (638967600, 8), (657108000, 9), (671022000, 8), (688557600, 9), (702471600, 8), (720007200, 9),
   (733921200, 8), (752061600, 9), (765370800, 8), (783511200, 9), (796820400, 8), (814960800, 9),
   (828874800, 8), (846410400, 9), (860324400, 8), (877860000, 9), (891774000, 8), (909309600, 9),
   (923223600, 8), (941364000, 9), (954673200, 8), (972813600, 9), (986122800, 8), (1004263200, 9),
   (1018177200, 8), (1035712800, 9), (1049626800, 8), (1067162400, 9), (1081076400, 8), (1099216800, 9),
   (1112526000, 8), (1130666400, 9), (1143975600, 8), (1162116000, 9), (1173610800, 8)]
  (.seasonal ⟨-32400, "AKST"⟩ ⟨-28800, "AKDT"⟩ ⟨3, 2, 0, 7200⟩ ⟨11, 1, 0, 7200⟩)

/-- The region America/Argentina/Buenos_Aires. -/
def buenosAires : History := .ofTable
  ⟨-14028, "LMT"⟩
  [⟨-15408, "CMT"⟩, ⟨-14400, "-04"⟩, ⟨-10800, "-03"⟩, ⟨-7200, "-02"⟩, ⟨-10800, "-03"⟩]
  [(-2372097972, 1), (-1567453392, 2), (-1233432000, 3), (-1222981200, 2), (-1205956800, 3),
   (-1194037200, 2), (-1172865600, 3), (-1162501200, 2), (-1141329600, 3), (-1130965200, 2),
   (-1109793600, 3), (-1099429200, 2), (-1078257600, 3), (-1067806800, 2), (-1046635200, 3),
   (-1036270800, 2), (-1015099200, 3), (-1004734800, 2), (-983563200, 3), (-973198800, 2), (-952027200, 3),
   (-941576400, 2), (-931032000, 3), (-900882000, 2), (-890337600, 3), (-833749200, 2), (-827265600, 3),
   (-752274000, 2), (-733780800, 3), (-197326800, 2), (-190843200, 3), (-184194000, 2), (-164491200, 3),
   (-152658000, 2), (-132955200, 3), (-121122000, 2), (-101419200, 3), (-86821200, 2), (-71092800, 3),
   (-54766800, 2), (-39038400, 3), (-23317200, 2), (-7588800, 5), (128142000, 4), (136605600, 5),
   (596948400, 4), (605066400, 5), (624423600, 4), (636516000, 5), (656478000, 4), (667965600, 5),
   (687927600, 4), (699415200, 5), (719377200, 4), (731469600, 5), (938919600, 3), (952052400, 5),
   (1198983600, 4), (1205632800, 5), (1224385200, 4), (1237082400, 5)]
  (.steady ⟨-10800, "-03"⟩)

/-- The region America/Caracas. -/
def caracas : History := .ofTable
  ⟨-16064, "LMT"⟩
  [⟨-16060, "CMT"⟩, ⟨-16200, "-0430"⟩, ⟨-14400, "-04"⟩]
  [(-2524505536, 1), (-1826739140, 2), (-157750200, 3), (1197183600, 2), (1462086000, 3)]
  (.steady ⟨-14400, "-04"⟩)

/-- The region America/Chicago. -/
def chicago : History := .ofTable
  ⟨-21036, "LMT"⟩
  [⟨-18000, "CDT"⟩, ⟨-21600, "CST"⟩, ⟨-18000, "EST"⟩, ⟨-18000, "CWT"⟩, ⟨-18000, "CPT"⟩]
  [(-2717647200, 2), (-1633276800, 1), (-1615136400, 2), (-1601827200, 1), (-1583686800, 2),
   (-1563724800, 1), (-1551632400, 2), (-1538928000, 1), (-1520182800, 2), (-1504454400, 1),
   (-1491757200, 2), (-1473004800, 1), (-1459702800, 2), (-1441555200, 1), (-1428253200, 2),
   (-1410105600, 1), (-1396803600, 2), (-1378656000, 1), (-1365354000, 2), (-1347206400, 1),
   (-1333904400, 2), (-1315152000, 1), (-1301850000, 2), (-1283702400, 1), (-1270400400, 2),
   (-1252252800, 1), (-1238950800, 2), (-1220803200, 1), (-1207501200, 2), (-1189353600, 1),
   (-1176051600, 2), (-1157299200, 1), (-1144602000, 2), (-1125849600, 1), (-1112547600, 2),
   (-1094400000, 1), (-1081098000, 2), (-1067788800, 3), (-1045414800, 2), (-1031500800, 1),
   (-1018198800, 2), (-1000051200, 1), (-986749200, 2), (-967996800, 1), (-955299600, 2), (-936547200, 1),
   (-923245200, 2), (-905097600, 1), (-891795600, 2), (-880214400, 4), (-769395600, 5), (-765392400, 2),
   (-747244800, 1), (-733942800, 2), (-715795200, 1), (-702493200, 2), (-684345600, 1), (-671043600, 2),
   (-652896000, 1), (-639594000, 2), (-620841600, 1), (-608144400, 2), (-589392000, 1), (-576090000, 2),
   (-557942400, 1), (-544640400, 2), (-526492800, 1), (-513190800, 2), (-495043200, 1), (-481741200, 2),
   (-463593600, 1), (-447267600, 2), (-431539200, 1), (-415818000, 2), (-400089600, 1), (-384368400, 2),
   (-368640000, 1), (-352918800, 2), (-337190400, 1), (-321469200, 2), (-305740800, 1), (-289414800, 2),
   (-273686400, 1), (-257965200, 2), (-242236800, 1), (-226515600, 2), (-210787200, 1), (-195066000, 2),
   (-179337600, 1), (-163616400, 2), (-147888000, 1), (-131562000, 2), (-116438400, 1), (-100112400, 2),
   (-84384000, 1), (-68662800, 2), (-52934400, 1), (-37213200, 2), (-21484800, 1), (-5763600, 2),
   (9964800, 1), (25686000, 2), (41414400, 1), (57740400, 2), (73468800, 1), (89190000, 2), (104918400, 1),
   (120639600, 2), (126691200, 1), (152089200, 2), (162374400, 1), (183538800, 2), (199267200, 1),
   (215593200, 2), (230716800, 1), (247042800, 2), (262771200, 1), (278492400, 2), (294220800, 1),
   (309942000, 2), (325670400, 1), (341391600, 2), (357120000, 1), (372841200, 2), (388569600, 1),
   (404895600, 2), (420019200, 1), (436345200, 2), (452073600, 1), (467794800, 2), (483523200, 1),
   (499244400, 2), (514972800, 1), (530694000, 2), (544608000, 1), (562143600, 2), (576057600, 1),
   (594198000, 2), (607507200, 1), (625647600, 2), (638956800, 1), (657097200, 2), (671011200, 1),
   (688546800, 2), (702460800, 1), (719996400, 2), (733910400, 1), (752050800, 2), (765360000, 1),
   (783500400, 2), (796809600, 1), (814950000, 2), (828864000, 1), (846399600, 2), (860313600, 1),
   (877849200, 2), (891763200, 1), (909298800, 2), (923212800, 1), (941353200, 2), (954662400, 1),
   (972802800, 2), (986112000, 1), (1004252400, 2), (1018166400, 1), (1035702000, 2), (1049616000, 1),
   (1067151600, 2), (1081065600, 1), (1099206000, 2), (1112515200, 1), (1130655600, 2), (1143964800, 1),
   (1162105200, 2), (1173600000, 1)]
  (.seasonal ⟨-21600, "CST"⟩ ⟨-18000, "CDT"⟩ ⟨3, 2, 0, 7200⟩ ⟨11, 1, 0, 7200⟩)

/-- The region America/Indiana/Indianapolis. -/
def indianapolis : History := .ofTable
  ⟨-20678, "LMT"⟩
  [⟨-18000, "CDT"⟩, ⟨-21600, "CST"⟩, ⟨-18000, "CWT"⟩, ⟨-18000, "CPT"⟩, ⟨-18000, "EST"⟩, ⟨-14400, "EDT"⟩]
  [(-2717647200, 2), (-1633276800, 1), (-1615136400, 2), (-1601827200, 1), (-1583686800, 2), (-900259200, 1),
   (-891795600, 2), (-880214400, 3), (-769395600, 4), (-765392400, 2), (-747244800, 1), (-733942800, 2),
   (-715795200, 1), (-702493200, 2), (-684345600, 1), (-671043600, 2), (-652896000, 1), (-639594000, 2),
   (-620841600, 1), (-608144400, 2), (-589392000, 1), (-576090000, 2), (-557942400, 1), (-544640400, 2),
   (-526492800, 1), (-513190800, 2), (-495043200, 1), (-481741200, 2), (-463593600, 5), (-386787600, 2),
   (-368640000, 5), (-21488400, 6), (-5767200, 5), (9961200, 6), (25682400, 5), (1143961200, 6),
   (1162101600, 5), (1173596400, 6)]
  (.seasonal ⟨-18000, "EST"⟩ ⟨-14400, "EDT"⟩ ⟨3, 2, 0, 7200⟩ ⟨11, 1, 0, 7200⟩)

/-- The regions America/Los_Angeles and US/Pacific. -/
def losAngeles : History := .ofTable
  ⟨-28378, "LMT"⟩
  [⟨-25200, "PDT"⟩, ⟨-28800, "PST"⟩, ⟨-25200, "PWT"⟩, ⟨-25200, "PPT"⟩]
  [(-2717640000, 2), (-1633269600, 1), (-1615129200, 2), (-1601820000, 1), (-1583679600, 2), (-880207200, 3),
   (-769395600, 4), (-765385200, 2), (-687967140, 1), (-662655600, 2), (-620838000, 1), (-608137200, 2),
   (-589388400, 1), (-576082800, 2), (-557938800, 1), (-544633200, 2), (-526489200, 1), (-513183600, 2),
   (-495039600, 1), (-481734000, 2), (-463590000, 1), (-450284400, 2), (-431535600, 1), (-418230000, 2),
   (-400086000, 1), (-386780400, 2), (-368636400, 1), (-355330800, 2), (-337186800, 1), (-323881200, 2),
   (-305737200, 1), (-292431600, 2), (-273682800, 1), (-260982000, 2), (-242233200, 1), (-226508400, 2),
   (-210783600, 1), (-195058800, 2), (-179334000, 1), (-163609200, 2), (-147884400, 1), (-131554800, 2),
   (-116434800, 1), (-100105200, 2), (-84376800, 1), (-68655600, 2), (-52927200, 1), (-37206000, 2),
   (-21477600, 1), (-5756400, 2), (9972000, 1), (25693200, 2), (41421600, 1), (57747600, 2), (73476000, 1),
   (89197200, 2), (104925600, 1), (120646800, 2), (126698400, 1), (152096400, 2), (162381600, 1),
   (183546000, 2), (199274400, 1), (215600400, 2), (230724000, 1), (247050000, 2), (262778400, 1),
   (278499600, 2), (294228000, 1), (309949200, 2), (325677600, 1), (341398800, 2), (357127200, 1),
   (372848400, 2), (388576800, 1), (404902800, 2), (420026400, 1), (436352400, 2), (452080800, 1),
   (467802000, 2), (483530400, 1), (499251600, 2), (514980000, 1), (530701200, 2), (544615200, 1),
   (562150800, 2), (576064800, 1), (594205200, 2), (607514400, 1), (625654800, 2), (638964000, 1),
   (657104400, 2), (671018400, 1), (688554000, 2), (702468000, 1), (720003600, 2), (733917600, 1),
   (752058000, 2), (765367200, 1), (783507600, 2), (796816800, 1), (814957200, 2), (828871200, 1),
   (846406800, 2), (860320800, 1), (877856400, 2), (891770400, 1), (909306000, 2), (923220000, 1),
   (941360400, 2), (954669600, 1), (972810000, 2), (986119200, 1), (1004259600, 2), (1018173600, 1),
   (1035709200, 2), (1049623200, 1), (1067158800, 2), (1081072800, 1), (1099213200, 2), (1112522400, 1),
   (1130662800, 2), (1143972000, 1), (1162112400, 2), (1173607200, 1)]
  (.seasonal ⟨-28800, "PST"⟩ ⟨-25200, "PDT"⟩ ⟨3, 2, 0, 7200⟩ ⟨11, 1, 0, 7200⟩)

/-- The regions America/New_York and EST5EDT. -/
def newYork : History := .ofTable
  ⟨-17762, "LMT"⟩
  [⟨-14400, "EDT"⟩, ⟨-18000, "EST"⟩, ⟨-14400, "EWT"⟩, ⟨-14400, "EPT"⟩]
  [(-2717650800, 2), (-1633280400, 1), (-1615140000, 2), (-1601830800, 1), (-1583690400, 2),
   (-1570381200, 1), (-1551636000, 2), (-1536512400, 1), (-1523210400, 2), (-1504458000, 1),
   (-1491760800, 2), (-1473008400, 1), (-1459706400, 2), (-1441558800, 1), (-1428256800, 2),
   (-1410109200, 1), (-1396807200, 2), (-1378659600, 1), (-1365357600, 2), (-1347210000, 1),
   (-1333908000, 2), (-1315155600, 1), (-1301853600, 2), (-1283706000, 1), (-1270404000, 2),
   (-1252256400, 1), (-1238954400, 2), (-1220806800, 1), (-1207504800, 2), (-1189357200, 1),
   (-1176055200, 2), (-1157302800, 1), (-1144605600, 2), (-1125853200, 1), (-1112551200, 2),
   (-1094403600, 1), (-1081101600, 2), (-1062954000, 1), (-1049652000, 2), (-1031504400, 1),
   (-1018202400, 2), (-1000054800, 1), (-986752800, 2), (-968000400, 1), (-955303200, 2), (-936550800, 1),
   (-923248800, 2), (-905101200, 1), (-891799200, 2), (-880218000, 3), (-769395600, 4), (-765396000, 2),
   (-747248400, 1), (-733946400, 2), (-715798800, 1), (-702496800, 2), (-684349200, 1), (-671047200, 2),
   (-652899600, 1), (-639597600, 2), (-620845200, 1), (-608148000, 2), (-589395600, 1), (-576093600, 2),
   (-557946000, 1), (-544644000, 2), (-526496400, 1), (-513194400, 2), (-495046800, 1), (-481744800, 2),
   (-463597200, 1), (-447271200, 2), (-431542800, 1), (-415821600, 2), (-400093200, 1), (-384372000, 2),
   (-368643600, 1), (-352922400, 2), (-337194000, 1), (-321472800, 2), (-305744400, 1), (-289418400, 2),
   (-273690000, 1), (-257968800, 2), (-242240400, 1), (-226519200, 2), (-210790800, 1), (-195069600, 2),
   (-179341200, 1), (-163620000, 2), (-147891600, 1), (-131565600, 2), (-116442000, 1), (-100116000, 2),
   (-84387600, 1), (-68666400, 2), (-52938000, 1), (-37216800, 2), (-21488400, 1), (-5767200, 2),
   (9961200, 1), (25682400, 2), (41410800, 1), (57736800, 2), (73465200, 1), (89186400, 2), (104914800, 1),
   (120636000, 2), (126687600, 1), (152085600, 2), (162370800, 1), (183535200, 2), (199263600, 1),
   (215589600, 2), (230713200, 1), (247039200, 2), (262767600, 1), (278488800, 2), (294217200, 1),
   (309938400, 2), (325666800, 1), (341388000, 2), (357116400, 1), (372837600, 2), (388566000, 1),
   (404892000, 2), (420015600, 1), (436341600, 2), (452070000, 1), (467791200, 2), (483519600, 1),
   (499240800, 2), (514969200, 1), (530690400, 2), (544604400, 1), (562140000, 2), (576054000, 1),
   (594194400, 2), (607503600, 1), (625644000, 2), (638953200, 1), (657093600, 2), (671007600, 1),
   (688543200, 2), (702457200, 1), (719992800, 2), (733906800, 1), (752047200, 2), (765356400, 1),
   (783496800, 2), (796806000, 1), (814946400, 2), (828860400, 1), (846396000, 2), (860310000, 1),
   (877845600, 2), (891759600, 1), (909295200, 2), (923209200, 1), (941349600, 2), (954658800, 1),
   (972799200, 2), (986108400, 1), (1004248800, 2), (1018162800, 1), (1035698400, 2), (1049612400, 1),
   (1067148000, 2), (1081062000, 1), (1099202400, 2), (1112511600, 1), (1130652000, 2), (1143961200, 1),
   (1162101600, 2), (1173596400, 1)]
  (.seasonal ⟨-18000, "EST"⟩ ⟨-14400, "EDT"⟩ ⟨3, 2, 0, 7200⟩ ⟨11, 1, 0, 7200⟩)

/-- The regions America/Phoenix and MST. -/
def phoenix : History := .ofTable
  ⟨-26898, "LMT"⟩
  [⟨-21600, "MDT"⟩, ⟨-25200, "MST"⟩, ⟨-21600, "MWT"⟩]
  [(-2717643600, 2), (-1633273200, 1), (-1615132800, 2), (-1601823600, 1), (-1583683200, 2), (-880210800, 3),
   (-820519140, 2), (-812653140, 3), (-796845540, 2), (-84380400, 1), (-68659200, 2)]
  (.steady ⟨-25200, "MST"⟩)

/-- The region America/Puerto_Rico. -/
def puertoRico : History := .ofTable
  ⟨-15865, "LMT"⟩
  [⟨-14400, "AST"⟩, ⟨-10800, "APT"⟩, ⟨-10800, "AWT"⟩]
  [(-2233035335, 1), (-873057600, 3), (-769395600, 2), (-765399600, 1)]
  (.steady ⟨-14400, "AST"⟩)

/-- The region America/Sao_Paulo. -/
def saoPaulo : History := .ofTable
  ⟨-11188, "LMT"⟩
  [⟨-7200, "-02"⟩, ⟨-10800, "-03"⟩]
  [(-1767214412, 2), (-1206957600, 1), (-1191362400, 2), (-1175374800, 1), (-1159826400, 2), (-633819600, 1),
   (-622069200, 2), (-602283600, 1), (-591832800, 2), (-570747600, 1), (-560210400, 2), (-539125200, 1),
   (-531352800, 2), (-195426000, 1), (-184197600, 2), (-155163600, 1), (-150069600, 2), (-128898000, 1),
   (-121125600, 2), (-99954000, 1), (-89589600, 2), (-68418000, 1), (-57967200, 2), (499748400, 1),
   (511236000, 2), (530593200, 1), (540266400, 2), (562129200, 1), (571197600, 2), (592974000, 1),
   (602042400, 2), (624423600, 1), (634701600, 2), (656478000, 1), (666756000, 2), (687927600, 1),
   (697600800, 2), (719982000, 1), (728445600, 2), (750826800, 1), (761709600, 2), (782276400, 1),
   (793159200, 2), (813726000, 1), (824004000, 2), (844570800, 1), (856058400, 2), (876106800, 1),
   (888717600, 2), (908074800, 1), (919562400, 2), (938919600, 1), (951616800, 2), (970974000, 1),
   (982461600, 2), (1003028400, 1), (1013911200, 2), (1036292400, 1), (1045360800, 2), (1066532400, 1),
   (1076810400, 2), (1099364400, 1), (1108864800, 2), (1129431600, 1), (1140314400, 2), (1162695600, 1),
   (1172368800, 2), (1192330800, 1), (1203213600, 2), (1224385200, 1), (1234663200, 2), (1255834800, 1),
   (1266717600, 2), (1287284400, 1), (1298167200, 2), (1318734000, 1), (1330221600, 2), (1350788400, 1),
   (1361066400, 2), (1382238000, 1), (1392516000, 2), (1413687600, 1), (1424570400, 2), (1445137200, 1),
   (1456020000, 2), (1476586800, 1), (1487469600, 2), (1508036400, 1), (1518919200, 2), (1541300400, 1),
   (1550368800, 2)]
  (.steady ⟨-10800, "-03"⟩)

/-- The region America/St_Johns. -/
def stJohns : History := .ofTable
  ⟨-12652, "LMT"⟩
  [⟨-9052, "NDT"⟩, ⟨-12652, "NST"⟩, ⟨-9000, "NDT"⟩, ⟨-12600, "NST"⟩, ⟨-9000, "NPT"⟩, ⟨-9000, "NWT"⟩,
   ⟨-5400, "NDDT"⟩]
  [(-2713897748, 2), (-1664130548, 1), (-1650137348, 2), (-1632076148, 1), (-1615145348, 2),
   (-1598650148, 1), (-1590100148, 2), (-1567286948, 1), (-1551565748, 2), (-1535837348, 1),
   (-1520116148, 2), (-1503782948, 1), (-1488666548, 2), (-1472333348, 1), (-1457216948, 2),
   (-1440883748, 1), (-1425767348, 2), (-1409434148, 1), (-1394317748, 2), (-1377984548, 1),
   (-1362263348, 2), (-1346534948, 1), (-1330813748, 2), (-1314480548, 1), (-1299364148, 2),
   (-1283030948, 1), (-1267914548, 2), (-1251581348, 1), (-1236464948, 2), (-1220131748, 1),
   (-1205015348, 2), (-1188682148, 1), (-1172960948, 2), (-1156627748, 1), (-1141511348, 2),
   (-1125178148, 1), (-1110061748, 2), (-1096921748, 4), (-1093728600, 3), (-1078612200, 4),
   (-1061670600, 3), (-1048973400, 4), (-1030221000, 3), (-1017523800, 4), (-998771400, 3), (-986074200, 4),
   (-966717000, 3), (-954624600, 4), (-935267400, 3), (-922570200, 4), (-903817800, 3), (-891120600, 4),
   (-872368200, 6), (-769395600, 5), (-765401400, 4), (-746044200, 3), (-733347000, 4), (-714594600, 3),
   (-701897400, 4), (-683145000, 3), (-670447800, 4), (-651695400, 3), (-638998200, 4), (-619641000, 3),
   (-606943800, 4), (-589401000, 3), (-576099000, 4), (-557951400, 3), (-544649400, 4), (-526501800, 3),
   (-513199800, 4), (-495052200, 3), (-481750200, 4), (-463602600, 3), (-450300600, 4), (-431548200, 3),
   (-418246200, 4), (-400098600, 3), (-386796600, 4), (-368649000, 3), (-355347000, 4), (-337199400, 3),
   (-323897400, 4), (-305749800, 3), (-289423800, 4), (-273695400, 3), (-257974200, 4), (-242245800, 3),
   (-226524600, 4), (-210796200, 3), (-195075000, 4), (-179346600, 3), (-163625400, 4), (-147897000, 3),
   (-131571000, 4), (-116447400, 3), (-100121400, 4), (-84393000, 3), (-68671800, 4), (-52943400, 3),
   (-37222200, 4), (-21493800, 3), (-5772600, 4), (9955800, 3), (25677000, 4), (41405400, 3), (57731400, 4),
   (73459800, 3), (89181000, 4), (104909400, 3), (120630600, 4), (136359000, 3), (152080200, 4),
   (167808600, 3), (183529800, 4), (199258200, 3), (215584200, 4), (230707800, 3), (247033800, 4),
   (262762200, 3), (278483400, 4), (294211800, 3), (309933000, 4), (325661400, 3), (341382600, 4),
   (357111000, 3), (372832200, 4), (388560600, 3), (404886600, 4), (420010200, 3), (436336200, 4),
   (452064600, 3), (467785800, 4), (483514200, 3), (499235400, 4), (514963800, 3), (530685000, 4),
   (544591860, 3), (562127460, 4), (576041460, 7), (594178260, 4), (607491060, 3), (625631460, 4),
   (638940660, 3), (657081060, 4), (670995060, 3), (688530660, 4), (702444660, 3), (719980260, 4),
   (733894260, 3), (752034660, 4), (765343860, 3), (783484260, 4), (796793460, 3), (814933860, 4),
   (828847860, 3), (846383460, 4), (860297460, 3), (877833060, 4), (891747060, 3), (909282660, 4),
   (923196660, 3), (941337060, 4), (954646260, 3), (972786660, 4), (986095860, 3), (1004236260, 4),
   (1018150260, 3), (1035685860, 4), (1049599860, 3), (1067135460, 4), (1081049460, 3), (1099189860, 4),
   (1112499060, 3), (1130639460, 4), (1143948660, 3), (1162089060, 4), (1173583860, 3), (1194143460, 4),
   (1205033460, 3), (1225593060, 4), (1236483060, 3), (1257042660, 4), (1268537460, 3), (1289097060, 4),
   (1299987060, 3), (1320114600, 3)]
  (.seasonal ⟨-12600, "NST"⟩ ⟨-9000, "NDT"⟩ ⟨3, 2, 0, 7200⟩ ⟨11, 1, 0, 7200⟩)

end CivilTime.Database
