import SqlDialect.Rules.Basic
import SqlDialect.Template.Engines

/-!
# The two engines

The rules for MySQL, and those for Doris, which are the same but for four fields: the name, the cast
to a timestamp, which leaves a value alone, the limit on table names, and the templates.
-/

namespace SqlDialect

/-- An engine for which SQL is written. -/
inductive Engine where
  | mysql | doris
  deriving DecidableEq, Repr, Inhabited

namespace Rules

/-- The rules for MySQL. -/
def mysql : Rules where
  name := "mysql"
  timeGroupedColumn := Granularity.timeGroupedColumn
  addInterval date interval := dateAdd date.shown interval.shown
  subtractInterval date interval := dateSub date.shown interval.shown
  convertTz := convertToZone
  timeStampCast value := .text (timestampOf value.shown)
  dateTimeCast value := timestampOf value.shown
  escapeColumnName := Identifier.quoteValue
  concatStrings := concatElements
  castToString sql := charOf sql.shown
  unixTimestamp := unixTimestampNow
  preAggregationTableName := .ok
  templates := Template.Catalog.mysql

/-- The rules for Doris. -/
def doris : Rules :=
  { mysql with
    name := "doris"
    timeStampCast := id
    preAggregationTableName := Identifier.checkTableName
    templates := Template.Catalog.doris }

end Rules

namespace Engine

/-- Both engines. -/
def all : List Engine := [.mysql, .doris]

/-- The rules of an engine. -/
def rules : Engine → Rules
  | .mysql => Rules.mysql
  | .doris => Rules.doris

/-- The engine whose rules have a name. -/
def ofName? (name : String) : Option Engine :=
  all.find? fun e => e.rules.name = name

end Engine

end SqlDialect
