import CivilTime.Zone.History.Table

/-!
# Clock changes: Asia

The histories of the regions: what was observed first, what was observed later, numbered from 1, the UTC seconds of
the changes with the number of what is observed from then on, and the rule for the years after them.
-/

namespace CivilTime.Database

/-- The region Asia/Dhaka. -/
def dhaka : History := .ofTable
  ⟨21700, "LMT"⟩
  [⟨21200, "HMT"⟩, ⟨23400, "+0630"⟩, ⟨19800, "+0530"⟩, ⟨21600, "+06"⟩, ⟨25200, "+07"⟩]
  [(-2524543300, 1), (-891582800, 2), (-872058600, 3), (-862637400, 2), (-576138600, 4), (1245430800, 5),
   (1262278800, 4)]
  (.steady ⟨21600, "+06"⟩)

/-- The region Asia/Ho_Chi_Minh. -/
def hoChiMinh : History := .ofTable
  ⟨25590, "LMT"⟩
  [⟨25590, "PLMT"⟩, ⟨25200, "+07"⟩, ⟨28800, "+08"⟩, ⟨32400, "+09"⟩]
  [(-2004073590, 1), (-1851577590, 2), (-852105600, 3), (-782643600, 4), (-767869200, 2), (-718095600, 3),
   (-457772400, 2), (-315648000, 3), (171820800, 2)]
  (.steady ⟨25200, "+07"⟩)

/-- The region Asia/Karachi. -/
def karachi : History := .ofTable
  ⟨16092, "LMT"⟩
  [⟨19800, "+0530"⟩, ⟨23400, "+0630"⟩, ⟨18000, "+05"⟩, ⟨21600, "PKST"⟩, ⟨18000, "PKT"⟩]
  [(-1988166492, 1), (-862637400, 2), (-764145000, 1), (-576135000, 3), (38775600, 5), (1018119600, 4),
   (1033840800, 5), (1212260400, 4), (1225476000, 5), (1239735600, 4), (1257012000, 5)]
  (.steady ⟨18000, "PKT"⟩)

/-- The region Asia/Kathmandu. -/
def kathmandu : History := .ofTable
  ⟨20476, "LMT"⟩
  [⟨19800, "+0530"⟩, ⟨20700, "+0545"⟩]
  [(-1577943676, 1), (504901800, 2)]
  (.steady ⟨20700, "+0545"⟩)

/-- The region Asia/Kolkata. -/
def kolkata : History := .ofTable
  ⟨21208, "LMT"⟩
  [⟨21200, "HMT"⟩, ⟨19270, "MMT"⟩, ⟨19800, "IST"⟩, ⟨23400, "+0630"⟩]
  [(-3645237208, 1), (-3155694800, 2), (-2019705670, 3), (-891581400, 4), (-872058600, 3), (-862637400, 4),
   (-764145000, 3)]
  (.steady ⟨19800, "IST"⟩)

/-- The region Asia/Shanghai. -/
def shanghai : History := .ofTable
  ⟨29143, "LMT"⟩
  [⟨32400, "CDT"⟩, ⟨28800, "CST"⟩]
  [(-2177481943, 2), (-1600675200, 1), (-1585904400, 2), (-933667200, 1), (-922093200, 2), (-908870400, 1),
   (-888829200, 2), (-881049600, 1), (-767869200, 2), (-745833600, 1), (-733827600, 2), (-716889600, 1),
   (-699613200, 2), (-683884800, 1), (-670669200, 2), (-652348800, 1), (-650019600, 2), (515527200, 1),
   (527014800, 2), (545162400, 1), (558464400, 2), (577216800, 1), (589914000, 2), (608666400, 1),
   (621968400, 2), (640116000, 1), (653418000, 2), (671565600, 1), (684867600, 2)]
  (.steady ⟨28800, "CST"⟩)

/-- The region Asia/Tehran. -/
def tehran : History := .ofTable
  ⟨12344, "LMT"⟩
  [⟨12344, "TMT"⟩, ⟨16200, "+0430"⟩, ⟨12600, "+0330"⟩, ⟨18000, "+05"⟩, ⟨14400, "+04"⟩]
  [(-1704165944, 1), (-1090466744, 3), (227820600, 2), (246223800, 5), (259617600, 4), (271108800, 5),
   (279576000, 3), (296598600, 2), (306531000, 3), (322432200, 2), (338499000, 3), (673216200, 2),
   (685481400, 3), (701209800, 2), (717103800, 3), (732745800, 2), (748639800, 3), (764281800, 2),
   (780175800, 3), (795817800, 2), (811711800, 3), (827353800, 2), (843247800, 3), (858976200, 2),
   (874870200, 3), (890512200, 2), (906406200, 3), (922048200, 2), (937942200, 3), (953584200, 2),
   (969478200, 3), (985206600, 2), (1001100600, 3), (1016742600, 2), (1032636600, 3), (1048278600, 2),
   (1064172600, 3), (1079814600, 2), (1095708600, 3), (1111437000, 2), (1127331000, 3), (1206045000, 2),
   (1221939000, 3), (1237667400, 2), (1253561400, 3), (1269203400, 2), (1285097400, 3), (1300739400, 2),
   (1316633400, 3), (1332275400, 2), (1348169400, 3), (1363897800, 2), (1379791800, 3), (1395433800, 2),
   (1411327800, 3), (1426969800, 2), (1442863800, 3), (1458505800, 2), (1474399800, 3), (1490128200, 2),
   (1506022200, 3), (1521664200, 2), (1537558200, 3), (1553200200, 2), (1569094200, 3), (1584736200, 2),
   (1600630200, 3), (1616358600, 2), (1632252600, 3), (1647894600, 2), (1663788600, 3)]
  (.steady ⟨12600, "+0330"⟩)

/-- The regions Asia/Tokyo and Japan. -/
def tokyo : History := .ofTable
  ⟨33539, "LMT"⟩
  [⟨36000, "JDT"⟩, ⟨32400, "JST"⟩]
  [(-2587712400, 2), (-683802000, 1), (-672310800, 2), (-654771600, 1), (-640861200, 2), (-620298000, 1),
   (-609411600, 2), (-588848400, 1), (-577962000, 2)]
  (.steady ⟨32400, "JST"⟩)

/-- The region Asia/Yerevan. -/
def yerevan : History := .ofTable
  ⟨10680, "LMT"⟩
  [⟨10800, "+03"⟩, ⟨18000, "+05"⟩, ⟨14400, "+04"⟩, ⟨14400, "+04"⟩]
  [(-1441162680, 1), (-405140400, 3), (354916800, 2), (370724400, 3), (386452800, 2), (402260400, 3),
   (417988800, 2), (433796400, 3), (449611200, 2), (465343200, 3), (481068000, 2), (496792800, 3),
   (512517600, 2), (528242400, 3), (543967200, 2), (559692000, 3), (575416800, 2), (591141600, 3),
   (606866400, 2), (622591200, 3), (638316000, 2), (654645600, 3), (670370400, 4), (686098800, 1),
   (701823600, 4), (717548400, 1), (733273200, 4), (748998000, 1), (764722800, 4), (780447600, 1),
   (796172400, 4), (811897200, 3), (859672800, 2), (877816800, 3), (891122400, 2), (909266400, 3),
   (922572000, 2), (941320800, 3), (954021600, 2), (972770400, 3), (985471200, 2), (1004220000, 3),
   (1017525600, 2), (1035669600, 3), (1048975200, 2), (1067119200, 3), (1080424800, 2), (1099173600, 3),
   (1111874400, 2), (1130623200, 3), (1143324000, 2), (1162072800, 3), (1174773600, 2), (1193522400, 3),
   (1206828000, 2), (1224972000, 3), (1238277600, 2), (1256421600, 3), (1269727200, 2), (1288476000, 3),
   (1301176800, 2), (1319925600, 3)]
  (.steady ⟨14400, "+04"⟩)

end CivilTime.Database
