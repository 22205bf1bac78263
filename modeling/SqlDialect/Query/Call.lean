import SqlDialect.Query.Basic

/-!
# Calls of a query

`Call` lists the operations of a query with their arguments, so that a sequence of calls is a value.
`Call.ofRequest` makes a call from a name and the arguments given with it; `Query.perform` carries
one out, and `Query.performAll` a sequence of them, each at its own time.
-/

namespace SqlDialect.Query

variable {zones : Zone.Lookup}

/-- An operation with its arguments. -/
inductive Call where
  | timeGroupedColumn (granularity dimension : Value)
  | addInterval (date interval : Value)
  | subtractInterval (date interval : Value)
  | convertTz (field : Value)
  | timeStampCast (value : Value)
  | dateTimeCast (value : Value)
  | escapeColumnName (name : Value)
  | concatStrings (strings : Value)
  | castToString (sql : Value)
  | unixTimestamp
  | preAggregationTableName (cube name skipSchema : Value)
  | sqlTemplates
  | renderTemplate (category name : Value) (params : Template.Parameters)

/-- Carries a call out at a given time. -/
def perform (q : Query zones) (now : Instant) : Call → Outcome Value
  | .timeGroupedColumn granularity dimension =>
    (q.timeGroupedColumn granularity dimension).mapResult .text
  | .addInterval date interval => .ok (.text (q.addInterval date interval))
  | .subtractInterval date interval => .ok (.text (q.subtractInterval date interval))
  | .convertTz field => (q.convertTz now field).mapResult .text
  | .timeStampCast value => .ok (q.timeStampCast value)
  | .dateTimeCast value => .ok (.text (q.dateTimeCast value))
  | .escapeColumnName name => .silent ((q.escapeColumnName name).map .text)
  | .concatStrings strings => .silent ((q.concatStrings strings).map .text)
  | .castToString sql => .ok (.text (q.castToString sql))
  | .unixTimestamp => .ok (.text q.unixTimestamp)
  | .preAggregationTableName cube name skipSchema => q.preAggregationTableName cube name skipSchema
  | .sqlTemplates => .ok q.sqlTemplates.toValue
  | .renderTemplate category name params => (q.renderTemplate category name params).mapResult .text

/-- Carries out a sequence of calls. -/
def performAll (q : Query zones) (calls : List (Instant × Call)) : List (Outcome Value) :=
  calls.map fun call => q.perform call.1 call.2

/-- The parameters of an operation other than the rendering of a template. -/
def Call.parameters (name : String) : List Parameter :=
  match name with
  | "time_grouped_column" => [Arguments.required "granularity", Arguments.required "dimension"]
  | "add_interval" | "subtract_interval" =>
    [Arguments.required "date", Arguments.required "interval"]
  | "convert_tz" => [Arguments.required "field"]
  | "time_stamp_cast" | "date_time_cast" => [Arguments.required "value"]
  | "escape_column_name" => [Arguments.required "name"]
  | "concat_strings_sql" => [Arguments.required "strings"]
  | "cast_to_string" => [Arguments.required "sql"]
  | "pre_aggregation_table_name" => Context.tableNameParameters
  | _ => []

/-- The operation of a name with the values of its parameters. -/
def Call.ofValues? (name : String) (values : List Value) : Option Call :=
  match name, values with
  | "time_grouped_column", [granularity, dimension] =>
    some (.timeGroupedColumn granularity dimension)
  | "add_interval", [date, interval] => some (.addInterval date interval)
  | "subtract_interval", [date, interval] => some (.subtractInterval date interval)
  | "convert_tz", [field] => some (.convertTz field)
  | "time_stamp_cast", [value] => some (.timeStampCast value)
  | "date_time_cast", [value] => some (.dateTimeCast value)
  | "escape_column_name", [name] => some (.escapeColumnName name)
  | "concat_strings_sql", [strings] => some (.concatStrings strings)
  | "cast_to_string", [sql] => some (.castToString sql)
  | "unix_timestamp_sql", [] => some .unixTimestamp
  | "pre_aggregation_table_name", [cube, name, skipSchema] =>
    some (.preAggregationTableName cube name skipSchema)
  | "sql_templates", [] => some .sqlTemplates
  | _, _ => none

/-- The names that no parameter of a template can have, since the operation itself uses them. -/
def Call.reservedNames : List String := ["self", "category", "name"]

/-- A rendering: the category and the name of the template may be given in either way, and all else
that is named is a parameter of the template. -/
def Call.ofRendering (given : Arguments) : Except Failure Call :=
  let isOwn (entry : String × Value) : Bool := Call.reservedNames.contains entry.1
  let own := given.named.filter isOwn
  let params := given.named.filter fun entry => !isOwn entry
  match Arguments.bind [Arguments.required "category", Arguments.required "name"] []
      ⟨given.positional, own⟩ with
  | .ok [category, name] => .ok (.renderTemplate category name params)
  | .ok _ => .error .wrongType
  | .error e => .error e

/-- The call with a name and arguments. -/
def Call.ofRequest (name : String) (given : Arguments) : Except Failure Call :=
  if name = "render_template" then Call.ofRendering given
  else
    match Arguments.bind (Call.parameters name) [] given with
    | .error e => .error e
    | .ok values =>
      match Call.ofValues? name values with
      | some call => .ok call
      | none => .error .wrongType

end SqlDialect.Query
