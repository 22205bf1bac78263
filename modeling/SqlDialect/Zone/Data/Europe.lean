import SqlDialect.Zone.Basic

/-!
# Zone data: Europe

For each zone: the offset before the first change, the changes as pairs of the second from which on
an offset holds and that offset, and the rule for the years behind the last change.
-/

namespace SqlDialect.Zone.Data

/-- The clocks of Berlin. -/
def berlin : Zone :=
  ⟨3208,
   [(before 2422054408, 3600), (before 1693706400, 7200), (before 1680483600, 3600),
    (before 1663455600, 7200), (before 1650150000, 3600), (before 1632006000, 7200),
    (before 1618700400, 3600), (before 938905200, 7200), (before 857257200, 3600),
    (before 844556400, 7200), (before 828226800, 3600), (before 812502000, 7200),
    (before 796777200, 3600), (before 781052400, 7200), (before 776563200, 10800),
    (before 765936000, 7200), (before 761180400, 3600), (before 748479600, 7200),
    (before 733273200, 3600), (before 717631200, 7200), (before 714610800, 10800),
    (before 710380800, 7200), (before 701910000, 3600), (before 684975600, 7200),
    (before 670460400, 3600), (before 654130800, 7200), (before 639010800, 3600),
    (323830800, 7200), (338950800, 3600), (354675600, 7200), (370400400, 3600), (386125200, 7200),
    (401850000, 3600), (417574800, 7200), (433299600, 3600), (449024400, 7200), (465354000, 3600),
    (481078800, 7200), (496803600, 3600), (512528400, 7200), (528253200, 3600), (543978000, 7200),
    (559702800, 3600), (575427600, 7200), (591152400, 3600), (606877200, 7200), (622602000, 3600),
    (638326800, 7200), (654656400, 3600), (670381200, 7200), (686106000, 3600), (701830800, 7200),
    (717555600, 3600), (733280400, 7200), (749005200, 3600), (764730000, 7200), (780454800, 3600),
    (796179600, 7200), (811904400, 3600), (828234000, 7200)],
   some ⟨3600, 7200, ⟨3, 5, 0, 7200⟩, ⟨10, 5, 0, 10800⟩⟩⟩

/-- The clocks of London. -/
def london : Zone :=
  ⟨west 75,
   [(before 3852662325, 0), (before 1691964000, 3600), (before 1680472800, 0),
    (before 1664143200, 3600), (before 1650146400, 0), (before 1633903200, 3600),
    (before 1617487200, 0), (before 1601848800, 3600), (before 1586037600, 0),
    (before 1570399200, 3600), (before 1552168800, 0), (before 1538344800, 3600),
    (before 1522533600, 0), (before 1507500000, 3600), (before 1490565600, 0),
    (before 1473631200, 3600), (before 1460930400, 0), (before 1442786400, 3600),
    (before 1428876000, 0), (before 1410732000, 3600), (before 1396216800, 0),
    (before 1379282400, 3600), (before 1364767200, 0), (before 1348437600, 3600),
    (before 1333317600, 0), (before 1315778400, 3600), (before 1301263200, 0),
    (before 1284328800, 3600), (before 1269813600, 0), (before 1253484000, 3600),
    (before 1238364000, 0), (before 1221429600, 3600), (before 1206914400, 0),
    (before 1189980000, 3600), (before 1175464800, 0), (before 1159135200, 3600),
    (before 1143410400, 0), (before 1126476000, 3600), (before 1111960800, 0),
    (before 1095631200, 3600), (before 1080511200, 0), (before 1063576800, 3600),
    (before 1049061600, 0), (before 1032127200, 3600), (before 1017612000, 0),
    (before 1001282400, 3600), (before 986162400, 0), (before 969228000, 3600),
    (before 950479200, 0), (before 942012000, 3600), (before 904518000, 7200),
    (before 896050800, 3600), (before 875487600, 7200), (before 864601200, 3600),
    (before 844038000, 7200), (before 832546800, 3600), (before 812588400, 7200),
    (before 798073200, 3600), (before 781052400, 7200), (before 772066800, 3600),
    (before 764805600, 0), (before 748476000, 3600), (before 733356000, 0),
    (before 719445600, 3600), (before 717030000, 7200), (before 706748400, 3600),
    (before 699487200, 0), (before 687996000, 3600), (before 668037600, 0),
    (before 654732000, 3600), (before 636588000, 0), (before 622072800, 3600),
    (before 605743200, 0), (before 590623200, 3600), (before 574293600, 0),
    (before 558568800, 3600), (before 542239200, 0), (before 527119200, 3600),
    (before 512604000, 0), (before 496274400, 3600), (before 481154400, 0),
    (before 464220000, 3600), (before 449704800, 0), (before 432165600, 3600),
    (before 417650400, 0), (before 401320800, 3600), (before 386200800, 0),
    (before 369266400, 3600), (before 354751200, 0), (before 337816800, 3600),
    (before 323301600, 0), (before 306972000, 3600), (before 291852000, 0),
    (before 276732000, 3600), (before 257983200, 0), (before 245282400, 3600),
    (before 226533600, 0), (before 213228000, 3600), (before 195084000, 0),
    (before 182383200, 3600), (before 163634400, 0), (before 150933600, 3600),
    (before 132184800, 0), (before 119484000, 3600), (before 100735200, 0),
    (before 88034400, 3600), (before 68680800, 0), (before 59004000, 3600), (57722400, 0),
    (69818400, 3600), (89172000, 0), (101268000, 3600), (120621600, 0), (132717600, 3600),
    (152071200, 0), (164167200, 3600), (183520800, 0), (196221600, 3600), (214970400, 0),
    (227671200, 3600), (246420000, 0), (259120800, 3600), (278474400, 0), (290570400, 3600),
    (309924000, 0), (322020000, 3600), (341373600, 0), (354675600, 3600), (372819600, 0),
    (386125200, 3600), (404269200, 0), (417574800, 3600), (435718800, 0), (449024400, 3600),
    (467773200, 0), (481078800, 3600), (499222800, 0), (512528400, 3600), (530672400, 0),
    (543978000, 3600), (562122000, 0), (575427600, 3600), (593571600, 0), (606877200, 3600),
    (625626000, 0), (638326800, 3600), (657075600, 0), (670381200, 3600), (688525200, 0),
    (701830800, 3600), (719974800, 0), (733280400, 3600), (751424400, 0), (764730000, 3600),
    (782874000, 0), (796179600, 3600), (814323600, 0), (820454400, 0)],
   some ⟨0, 3600, ⟨3, 5, 0, 3600⟩, ⟨10, 5, 0, 7200⟩⟩⟩

/-- The clocks of Dublin. -/
def dublin : Zone :=
  ⟨west 1521,
   [(before 1691962479, 2079), (before 1680471279, 0), (before 1664143200, 3600),
    (before 1650146400, 0), (before 1633903200, 3600), (before 1617487200, 0),
    (before 1601848800, 3600), (before 1586037600, 0), (before 1570399200, 3600),
    (before 1552168800, 0), (before 1538344800, 3600), (before 1522533600, 0),
    (before 1507500000, 3600), (before 1490565600, 0), (before 1473631200, 3600),
    (before 1460930400, 0), (before 1442786400, 3600), (before 1428876000, 0),
    (before 1410732000, 3600), (before 1397426400, 0), (before 1379282400, 3600),
    (before 1364767200, 0), (before 1348437600, 3600), (before 1333317600, 0),
    (before 1315778400, 3600), (before 1301263200, 0), (before 1284328800, 3600),
    (before 1269813600, 0), (before 1253484000, 3600), (before 1238364000, 0),
    (before 1221429600, 3600), (before 1206914400, 0), (before 1189980000, 3600),
    (before 1175464800, 0), (before 1159135200, 3600), (before 1143410400, 0),
    (before 1126476000, 3600), (before 1111960800, 0), (before 1095631200, 3600),
    (before 1080511200, 0), (before 1063576800, 3600), (before 1049061600, 0),
    (before 1032127200, 3600), (before 1017612000, 0), (before 1001282400, 3600),
    (before 986162400, 0), (before 969228000, 3600), (before 950479200, 0),
    (before 942012000, 3600), (before 733356000, 0), (before 719445600, 3600),
    (before 699487200, 0), (before 684972000, 3600), (before 668037600, 0),
    (before 654732000, 3600), (before 636588000, 0), (before 622072800, 3600),
    (before 605743200, 0), (before 590623200, 3600), (before 574293600, 0),
    (before 558568800, 3600), (before 542239200, 0), (before 527119200, 3600),
    (before 512604000, 0), (before 496274400, 3600), (before 481154400, 0),
    (before 464220000, 3600), (before 449704800, 0), (before 432165600, 3600),
    (before 417650400, 0), (before 401320800, 3600), (before 386200800, 0),
    (before 369266400, 3600), (before 354751200, 0), (before 337816800, 3600),
    (before 323301600, 0), (before 306972000, 3600), (before 291852000, 0),
    (before 276732000, 3600), (before 257983200, 0), (before 245282400, 3600),
    (before 226533600, 0), (before 213228000, 3600), (before 195084000, 0),
    (before 182383200, 3600), (before 163634400, 0), (before 150933600, 3600),
    (before 132184800, 0), (before 119484000, 3600), (before 100735200, 0),
    (before 88034400, 3600), (before 68680800, 0), (before 59004000, 3600), (57722400, 0),
    (69818400, 3600), (89172000, 0), (101268000, 3600), (120621600, 0), (132717600, 3600),
    (152071200, 0), (164167200, 3600), (183520800, 0), (196221600, 3600), (214970400, 0),
    (227671200, 3600), (246420000, 0), (259120800, 3600), (278474400, 0), (290570400, 3600),
    (309924000, 0), (322020000, 3600), (341373600, 0), (354675600, 3600), (372819600, 0),
    (386125200, 3600), (404269200, 0), (417574800, 3600), (435718800, 0), (449024400, 3600),
    (467773200, 0), (481078800, 3600), (499222800, 0), (512528400, 3600), (530672400, 0),
    (543978000, 3600), (562122000, 0), (575427600, 3600), (593571600, 0), (606877200, 3600),
    (625626000, 0), (638326800, 3600), (657075600, 0), (670381200, 3600), (688525200, 0),
    (701830800, 3600), (719974800, 0), (733280400, 3600), (751424400, 0), (764730000, 3600),
    (782874000, 0), (796179600, 3600), (814323600, 0), (828234000, 3600)],
   some ⟨3600, 0, ⟨10, 5, 0, 7200⟩, ⟨3, 5, 0, 3600⟩⟩⟩

/-- The clocks of Moscow. -/
def moscow : Zone :=
  ⟨9017,
   [(before 1688265017, 9079), (before 1656819079, 12679), (before 1641353479, 9079),
    (before 1627965079, 16279), (before 1618716679, 12679), (before 1596429079, 16279),
    (before 1593820800, 14400), (before 1589860800, 10800), (before 1542427200, 14400),
    (before 1539493200, 18000), (before 1525323600, 14400), (before 1522728000, 10800),
    (before 1491188400, 7200), (before 1247536800, 10800), (354920400, 14400), (370728000, 10800),
    (386456400, 14400), (402264000, 10800), (417992400, 14400), (433800000, 10800),
    (449614800, 14400), (465346800, 10800), (481071600, 14400), (496796400, 10800),
    (512521200, 14400), (528246000, 10800), (543970800, 14400), (559695600, 10800),
    (575420400, 14400), (591145200, 10800), (606870000, 14400), (622594800, 10800),
    (638319600, 14400), (654649200, 10800), (686102400, 7200), (695779200, 10800),
    (701823600, 14400), (717548400, 10800), (733273200, 14400), (748998000, 10800),
    (764722800, 14400), (780447600, 10800), (796172400, 14400), (811897200, 10800),
    (828226800, 14400), (846370800, 10800), (859676400, 14400), (877820400, 10800),
    (891126000, 14400), (909270000, 10800), (922575600, 14400), (941324400, 10800),
    (954025200, 14400), (972774000, 10800), (985474800, 14400), (1004223600, 10800),
    (1017529200, 14400), (1035673200, 10800), (1048978800, 14400), (1067122800, 10800),
    (1080428400, 14400), (1099177200, 10800), (1111878000, 14400), (1130626800, 10800),
    (1143327600, 14400), (1162076400, 10800), (1174777200, 14400), (1193526000, 10800),
    (1206831600, 14400), (1224975600, 10800), (1238281200, 14400), (1256425200, 10800),
    (1269730800, 14400), (1288479600, 10800), (1301180400, 14400), (1414274400, 10800)],
   none⟩

end SqlDialect.Zone.Data
