import SqlDialect.Rules.Engine

/-!
# Rules derived field by field

A set of rules can be made from an engine's by taking single fields from the other engine, or a new
name. `Derived` remembers for each field which engine it is from, so that one can tell which fields
two sets share.

Main statement: `rules_ofEngine`, by which nothing replaced gives the rules of the engine.
-/

namespace SqlDialect.Rules

/-- The fields of `Rules` other than the name. -/
inductive Field where
  | timeGroupedColumn | addInterval | subtractInterval | convertTz | timeStampCast | dateTimeCast
  | escapeColumnName | concatStrings | castToString | unixTimestamp | preAggregationTableName
  | templates
  deriving DecidableEq, Repr

namespace Field

/-- All fields. -/
def all : List Field :=
  [.timeGroupedColumn, .addInterval, .subtractInterval, .convertTz, .timeStampCast, .dateTimeCast,
   .escapeColumnName, .concatStrings, .castToString, .unixTimestamp, .preAggregationTableName,
   .templates]

/-- The name under which a field is replaced. -/
def name : Field → String
  | .timeGroupedColumn => "time_grouped_column"
  | .addInterval => "add_interval"
  | .subtractInterval => "subtract_interval"
  | .convertTz => "convert_tz"
  | .timeStampCast => "time_stamp_cast"
  | .dateTimeCast => "date_time_cast"
  | .escapeColumnName => "escape_column_name"
  | .concatStrings => "concat_strings"
  | .castToString => "cast_to_string"
  | .unixTimestamp => "unix_timestamp"
  | .preAggregationTableName => "pre_aggregation_table_name"
  | .templates => "templates"

/-- The field of a name. -/
def ofName? (s : String) : Option Field :=
  all.find? fun f => f.name = s

/-- Whether the rules for Doris keep the field of the rules for MySQL. -/
def isShared : Field → Bool
  | .timeStampCast | .preAggregationTableName | .templates => false
  | _ => true

end Field

/-- Rules put together from the fields of the engines. -/
structure Derived where
  name : String
  source : Field → Engine

/-- A replacement in a set of rules. -/
inductive Replacement where
  | rename (name : String)
  | take (field : Field) (source : Engine)

namespace Derived

/-- The rules of an engine as they are. -/
def ofEngine (e : Engine) : Derived := ⟨e.rules.name, fun _ => e⟩

/-- Replaces one field. -/
def replace (d : Derived) : Replacement → Derived
  | .rename name => { d with name := name }
  | .take field source => { d with source := fun f => if f = field then source else d.source f }

/-- Replaces fields, a later replacement of a field winning over an earlier one. -/
def replaceAll (d : Derived) (replacements : List Replacement) : Derived :=
  replacements.foldl replace d

/-- The rules themselves. -/
def rules (d : Derived) : Rules where
  name := d.name
  timeGroupedColumn := (d.source .timeGroupedColumn).rules.timeGroupedColumn
  addInterval := (d.source .addInterval).rules.addInterval
  subtractInterval := (d.source .subtractInterval).rules.subtractInterval
  convertTz := (d.source .convertTz).rules.convertTz
  timeStampCast := (d.source .timeStampCast).rules.timeStampCast
  dateTimeCast := (d.source .dateTimeCast).rules.dateTimeCast
  escapeColumnName := (d.source .escapeColumnName).rules.escapeColumnName
  concatStrings := (d.source .concatStrings).rules.concatStrings
  castToString := (d.source .castToString).rules.castToString
  unixTimestamp := (d.source .unixTimestamp).rules.unixTimestamp
  preAggregationTableName := (d.source .preAggregationTableName).rules.preAggregationTableName
  templates := (d.source .templates).rules.templates

/-- The engines that have the same field. -/
def sharers (d : Derived) (field : Field) : List Engine :=
  Engine.all.filter fun e => field.isShared || e = d.source field

/-- The engines that have the same name. -/
def namesakes (d : Derived) : List Engine :=
  Engine.all.filter fun e => e.rules.name = d.name

theorem rules_ofEngine (e : Engine) : (ofEngine e).rules = e.rules := by
  cases e <;> rfl

end Derived

/-! ## Applying a rule by the name of its field -/

/-- Applies the rule of a field to a list of arguments. Only the quote of an identifier can be left
out. -/
def apply (r : Rules) (zones : Zone.Lookup) (now : Instant) (field : Field)
    (arguments : List Value) : Outcome Value :=
  match field, arguments with
  | .timeGroupedColumn, [granularity, dimension] =>
    (r.timeGroupedColumn granularity dimension).mapResult .text
  | .addInterval, [date, interval] => .ok (.text (r.addInterval date interval))
  | .subtractInterval, [date, interval] => .ok (.text (r.subtractInterval date interval))
  | .convertTz, [column, timezone] => (r.convertTz zones now column timezone).mapResult .text
  | .timeStampCast, [value] => .ok (r.timeStampCast value)
  | .dateTimeCast, [value] => .ok (.text (r.dateTimeCast value))
  | .escapeColumnName, [name] =>
    .silent ((r.escapeColumnName name (.text (String.ofList [Identifier.backtick]))).map .text)
  | .escapeColumnName, [name, quote] => .silent ((r.escapeColumnName name quote).map .text)
  | .concatStrings, [strings] => .silent ((r.concatStrings strings).map .text)
  | .castToString, [sql] => .ok (.text (r.castToString sql))
  | .unixTimestamp, [] => .ok (.text r.unixTimestamp)
  | .preAggregationTableName, [name] => r.preAggregationTableName name
  | _, _ => .fail .wrongType

end SqlDialect.Rules
