import SqlDialect.Zone.Basic

/-!
# Zone data: Africa, Antarctica and the zones that are named for an offset

For each zone: the offset before the first change, the changes as pairs of the second from which on
an offset holds and that offset, and the rule for the years behind the last change.
-/

namespace SqlDialect.Zone.Data

/-- The clocks of Casablanca. -/
def casablanca : Zone :=
  ⟨west 1820,
   [(before 1773012580, 0), (before 956361600, 3600), (before 950490000, 0),
    (before 942019200, 3600), (before 761187600, 0), (before 617241600, 3600),
    (before 605149200, 0), (before 81432000, 3600), (before 71110800, 0), (141264000, 3600),
    (147222000, 0), (199756800, 3600), (207702000, 0), (231292800, 3600), (244249200, 0),
    (265507200, 3600), (271033200, 0), (448243200, 3600), (504918000, 0), (1212278400, 3600),
    (1220223600, 0), (1243814400, 3600), (1250809200, 0), (1272758400, 3600), (1281222000, 0),
    (1301788800, 3600), (1312066800, 0), (1335664800, 3600), (1342749600, 0), (1345428000, 3600),
    (1348970400, 0), (1367114400, 3600), (1373162400, 0), (1376100000, 3600), (1382839200, 0),
    (1396144800, 3600), (1403920800, 0), (1406944800, 3600), (1414288800, 0), (1427594400, 3600),
    (1434247200, 0), (1437271200, 3600), (1445738400, 0), (1459044000, 3600), (1465092000, 0),
    (1468116000, 3600), (1477792800, 0), (1490493600, 3600), (1495332000, 0), (1498960800, 3600),
    (1509242400, 0), (1521943200, 3600), (1526176800, 0), (1529200800, 3600), (1557021600, 0),
    (1560045600, 3600), (1587261600, 0), (1590890400, 3600), (1618106400, 0), (1621130400, 3600),
    (1648346400, 0), (1651975200, 3600), (1679191200, 0), (1682215200, 3600), (1710036000, 0),
    (1713060000, 3600), (1740276000, 0), (1743904800, 3600), (1771120800, 0), (1774144800, 3600),
    (1789866000, 0)],
   none⟩

/-- The clocks of Monrovia. -/
def monrovia : Zone :=
  ⟨west 2588,
   [(before 1604359012, west 2670), (63593070, 0)],
   none⟩

/-- The clocks of Troll. -/
def troll : Zone :=
  ⟨0,
   [(1108166400, 0)],
   some ⟨0, 7200, ⟨3, 5, 0, 3600⟩, ⟨10, 5, 0, 10800⟩⟩⟩

/-- The clocks of EST. -/
def est : Zone :=
  ⟨west 19088,
   [(before 2524502512, west 19176), (before 1946918424, west 18000)],
   none⟩

/-- The clocks of EST5EDT. -/
def est5edt : Zone :=
  ⟨west 18000,
   [(before 1633280400, west 14400), (before 1615140000, west 18000),
    (before 1601830800, west 14400), (before 1583690400, west 18000),
    (before 880218000, west 14400), (before 765396000, west 18000), (before 84387600, west 14400),
    (before 68666400, west 18000), (before 52938000, west 14400), (before 37216800, west 18000),
    (before 21488400, west 14400), (before 5767200, west 18000), (9961200, west 14400),
    (25682400, west 18000), (41410800, west 14400), (57736800, west 18000),
    (73465200, west 14400), (89186400, west 18000), (104914800, west 14400),
    (120636000, west 18000), (126687600, west 14400), (152085600, west 18000),
    (162370800, west 14400), (183535200, west 18000), (199263600, west 14400),
    (215589600, west 18000), (230713200, west 14400), (247039200, west 18000),
    (262767600, west 14400), (278488800, west 18000), (294217200, west 14400),
    (309938400, west 18000), (325666800, west 14400), (341388000, west 18000),
    (357116400, west 14400), (372837600, west 18000), (388566000, west 14400),
    (404892000, west 18000), (420015600, west 14400), (436341600, west 18000),
    (452070000, west 14400), (467791200, west 18000), (483519600, west 14400),
    (499240800, west 18000), (514969200, west 14400), (530690400, west 18000),
    (544604400, west 14400), (562140000, west 18000), (576054000, west 14400),
    (594194400, west 18000), (607503600, west 14400), (625644000, west 18000),
    (638953200, west 14400), (657093600, west 18000), (671007600, west 14400),
    (688543200, west 18000), (702457200, west 14400), (719992800, west 18000),
    (733906800, west 14400), (752047200, west 18000), (765356400, west 14400),
    (783496800, west 18000), (796806000, west 14400), (814946400, west 18000),
    (828860400, west 14400), (846396000, west 18000), (860310000, west 14400),
    (877845600, west 18000), (891759600, west 14400), (909295200, west 18000),
    (923209200, west 14400), (941349600, west 18000), (954658800, west 14400),
    (972799200, west 18000), (986108400, west 14400), (1004248800, west 18000),
    (1018162800, west 14400), (1035698400, west 18000), (1049612400, west 14400),
    (1067148000, west 18000), (1081062000, west 14400), (1099202400, west 18000),
    (1112511600, west 14400), (1130652000, west 18000), (1143961200, west 14400),
    (1162101600, west 18000), (1173596400, west 14400)],
   some ⟨west 18000, west 14400, ⟨3, 2, 0, 7200⟩, ⟨11, 1, 0, 7200⟩⟩⟩

end SqlDialect.Zone.Data
