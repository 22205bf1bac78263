import SqlDialect.Zone.Basic

/-!
# Zone data: Asia

For each zone: the offset before the first change, the changes as pairs of the second from which on
an offset holds and that offset, and the rule for the years behind the last change.
-/

namespace SqlDialect.Zone.Data

/-- The clocks of Shanghai. -/
def shanghai : Zone :=
  ⟨29143,
   [(before 2177481943, 28800), (before 1600675200, 32400), (before 1585904400, 28800),
    (before 933667200, 32400), (before 922093200, 28800), (before 908870400, 32400),
    (before 888829200, 28800), (before 881049600, 32400), (before 767869200, 28800),
    (before 745833600, 32400), (before 733827600, 28800), (before 716889600, 32400),
    (before 699613200, 28800), (before 683884800, 32400), (before 670669200, 28800),
    (before 652348800, 32400), (before 650019600, 28800), (515527200, 32400), (527014800, 28800),
    (545162400, 32400), (558464400, 28800), (577216800, 32400), (589914000, 28800),
    (608666400, 32400), (621968400, 28800), (640116000, 32400), (653418000, 28800),
    (671565600, 32400), (684867600, 28800)],
   none⟩

/-- The clocks of Kolkata. -/
def kolkata : Zone :=
  ⟨21208,
   [(before 3645237208, 21200), (before 3155694800, 19270), (before 2019705670, 19800),
    (before 891581400, 23400), (before 872058600, 19800), (before 862637400, 23400),
    (before 764145000, 19800)],
   none⟩

/-- The clocks of Kathmandu. -/
def kathmandu : Zone :=
  ⟨20476,
   [(before 1577943676, 19800), (504901800, 20700)],
   none⟩

/-- The clocks of Tokyo. -/
def tokyo : Zone :=
  ⟨33539,
   [(before 2587712400, 32400), (before 683802000, 36000), (before 672310800, 32400),
    (before 654771600, 36000), (before 640861200, 32400), (before 620298000, 36000),
    (before 609411600, 32400), (before 588848400, 36000), (before 577962000, 32400)],
   none⟩

/-- The clocks of Tehran. -/
def tehran : Zone :=
  ⟨12344,
   [(before 1090466744, 12600), (227820600, 16200), (246223800, 14400), (259617600, 18000),
    (271108800, 14400), (279576000, 12600), (296512200, 16200), (306531000, 12600),
    (322432200, 16200), (338499000, 12600), (673216200, 16200), (685481400, 12600),
    (701209800, 16200), (717103800, 12600), (732745800, 16200), (748639800, 12600),
    (764281800, 16200), (780175800, 12600), (795817800, 16200), (811711800, 12600),
    (827353800, 16200), (843247800, 12600), (858976200, 16200), (874870200, 12600),
    (890512200, 16200), (906406200, 12600), (922048200, 16200), (937942200, 12600),
    (953584200, 16200), (969478200, 12600), (985206600, 16200), (1001100600, 12600),
    (1016742600, 16200), (1032636600, 12600), (1048278600, 16200), (1064172600, 12600),
    (1079814600, 16200), (1095708600, 12600), (1111437000, 16200), (1127331000, 12600),
    (1206045000, 16200), (1221939000, 12600), (1237667400, 16200), (1253561400, 12600),
    (1269203400, 16200), (1285097400, 12600), (1300739400, 16200), (1316633400, 12600),
    (1332275400, 16200), (1348169400, 12600), (1363897800, 16200), (1379791800, 12600),
    (1395433800, 16200), (1411327800, 12600), (1426969800, 16200), (1442863800, 12600),
    (1458505800, 16200), (1474399800, 12600), (1490128200, 16200), (1506022200, 12600),
    (1521664200, 16200), (1537558200, 12600), (1553200200, 16200), (1569094200, 12600),
    (1584736200, 16200), (1600630200, 12600), (1616358600, 16200), (1632252600, 12600),
    (1647894600, 16200), (1663788600, 12600)],
   none⟩

/-- The clocks of Kabul. -/
def kabul : Zone :=
  ⟨16608,
   [(before 2524538208, 14400), (before 788932800, 16200)],
   none⟩

/-- The clocks of Pyongyang. -/
def pyongyang : Zone :=
  ⟨30180,
   [(before 1948782180, 30600), (before 1830414600, 32400), (1439564400, 30600),
    (1525446000, 32400)],
   none⟩

end SqlDialect.Zone.Data
