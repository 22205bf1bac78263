import SqlDialect.Context
import SqlDialect.Rules.Engine

/-!
# Queries

A query joins the rules of an engine with a context. Each of its operations is a function of its
arguments, and of the zones and the clock where a time zone is involved; the query never changes.

The context of a query is made from options, is a given context, or is a given context with some
fields replaced by options.

Main statements: the rules of the operations that are the same for both engines and can fail, such
as `timeGroupedColumn_rule` and `convertTz_rule`.
-/

namespace SqlDialect

/-- The rules of an engine for a context. -/
structure Query (zones : Zone.Lookup) where
  engine : Engine
  context : Context zones

namespace Query

variable {zones : Zone.Lookup}

/-- Makes a query from a given context, if there is one, and options. No option can have the name of
the query itself, whatever else is wrong with the options. -/
def make (engine : Engine) (given : Option (Context zones)) (options : List (String × Value)) :
    Except Failure (Query zones) :=
  if options.any fun option => option.1 = Arguments.receiver then
    .error (.arguments (.repeated Arguments.receiver))
  else
    match given with
    | none => (Context.create zones options).map (⟨engine, ·⟩)
    | some c => if options.isEmpty then .ok ⟨engine, c⟩ else (c.replace options).map (⟨engine, ·⟩)

/-- Whether a query made from a given context and options has that very context. -/
def keepsContext (given : Option (Context zones)) (options : List (String × Value)) : Bool :=
  given.isSome && options.isEmpty

/-- The rules of a query. -/
def rules (q : Query zones) : Rules := q.engine.rules

/-- The time zone of a query. -/
def timezone (q : Query zones) : String := q.context.timezone

/-- The start of the bucket in which a dimension lies. -/
def timeGroupedColumn (q : Query zones) (granularity dimension : Value) : Outcome String :=
  q.rules.timeGroupedColumn granularity dimension

/-- A date some interval later. -/
def addInterval (q : Query zones) (date interval : Value) : String :=
  q.rules.addInterval date interval

/-- A date some interval earlier. -/
def subtractInterval (q : Query zones) (date interval : Value) : String :=
  q.rules.subtractInterval date interval

/-- A field moved to the offset that the query's time zone has now. -/
def convertTz (q : Query zones) (now : Instant) (field : Value) : Outcome String :=
  q.rules.convertTz zones now field (.text q.timezone)

/-- A value as a timestamp in the engine's own sense. -/
def timeStampCast (q : Query zones) (value : Value) : Value :=
  q.rules.timeStampCast value

/-- A value as a date and time of day. -/
def dateTimeCast (q : Query zones) (value : Value) : String :=
  q.rules.dateTimeCast value

/-- The name of a column between quotes. -/
def escapeColumnName (q : Query zones) (name : Value) : Except Failure String :=
  q.rules.escapeColumnName name (.text (String.ofList [Identifier.backtick]))

/-- Texts put one after another. -/
def concatStrings (q : Query zones) (strings : Value) : Except Failure String :=
  q.rules.concatStrings strings

/-- A value as a text. -/
def castToString (q : Query zones) (sql : Value) : String :=
  q.rules.castToString sql

/-- The seconds since the start of 1970. -/
def unixTimestamp (q : Query zones) : String :=
  q.rules.unixTimestamp

/-- The name of a table of pre-aggregated rows, within the limit of the engine. -/
def preAggregationTableName (q : Query zones) (cube name skipSchema : Value) : Outcome Value :=
  q.rules.preAggregationTableName (.text (q.context.tableName cube name skipSchema))

/-- A template of the engine filled in. -/
def renderTemplate (q : Query zones) (category name : Value) (params : Template.Parameters) :
    Outcome String :=
  q.rules.templates.render category name params

/-- All templates of the engine. -/
def sqlTemplates (q : Query zones) : Template.Catalog :=
  q.rules.templates

/-- Assigning a field of the context of a query, which is never possible. -/
def setField (_ : Query zones) (_ : String) (_ : Value) : Except Failure (Query zones) :=
  .error .frozenField

/-- How a query is shown. -/
def shown (q : Query zones) : String :=
  let kind :=
    match q.engine with
    | .mysql => "MysqlQuery"
    | .doris => "DorisQuery"
  kind ++ "(dialect=" ++ Text.quoted q.rules.name ++ ", context=" ++ q.context.shown ++ ")"

/-! ## Rules that the engines share -/

variable (q : Query zones)

theorem timeGroupedColumn_rule (granularity dimension : Value) :
    q.timeGroupedColumn granularity dimension =
      Granularity.timeGroupedColumn granularity dimension := by
  obtain ⟨engine, c⟩ := q
  cases engine <;> rfl

theorem convertTz_rule (now : Instant) (field : Value) :
    q.convertTz now field = Rules.convertToZone zones now field (.text q.timezone) := by
  obtain ⟨engine, c⟩ := q
  cases engine <;> rfl

theorem concatStrings_rule (strings : Value) :
    q.concatStrings strings = Rules.concatElements strings := by
  obtain ⟨engine, c⟩ := q
  cases engine <;> rfl

theorem escapeColumnName_rule (name : Value) :
    q.escapeColumnName name =
      Identifier.quoteValue name (.text (String.ofList [Identifier.backtick])) := by
  obtain ⟨engine, c⟩ := q
  cases engine <;> rfl

end Query

end SqlDialect
