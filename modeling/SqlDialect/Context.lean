import SqlDialect.Arguments
import SqlDialect.Zone.Offset

/-!
# Contexts

A context says for which time zone SQL is written and in which schema tables of pre-aggregated rows
lie. It never changes, and the time zone of every context is one that exists: a context with another
one cannot be made. Which time zones exist is what a lookup says, and contexts for different lookups
are not mixed. The schema may be any value.

Main statement: `make_eq_ok_iff`, which contexts can be made.
-/

namespace SqlDialect

/-- What SQL is written for. -/
structure Context (zones : Zone.Lookup) where
  timezone : String
  schema : Value
  known : (zones timezone).isOk = true

namespace Context

variable {zones : Zone.Lookup}

/-- The time zone of a context for which none is given. -/
def defaultTimezone : Value := .text "UTC"

/-- The schema of a context for which none is given. -/
def defaultSchema : Value := .text "pre_aggregations"

/-- Makes a context, for which the time zone has to exist. -/
def make (zones : Zone.Lookup) (timezone schema : Value) : Except Failure (Context zones) :=
  match timezone.text? with
  | none => .error (.zoneKey .notText)
  | some key =>
    match h : zones key with
    | .ok _ => .ok ⟨key, schema, by rw [h]; rfl⟩
    | .error fault => .error (.zoneKey fault)

/-- The fields of a context by name, with the values they have when nothing else is given. -/
def parameters (timezone schema : Value) : List Parameter :=
  [Arguments.optional "timezone" timezone, Arguments.optional "pre_aggregations_schema" schema]

/-- Makes a context from options that may replace the given values of its fields. -/
def ofOptions (zones : Zone.Lookup) (timezone schema : Value) (options : List (String × Value)) :
    Except Failure (Context zones) :=
  match Arguments.bind (parameters timezone schema) [] ⟨[], options⟩ with
  | .ok [timezone, schema] => make zones timezone schema
  | .ok _ => .error .wrongType
  | .error e => .error e

/-- Makes a context from nothing but options. -/
def create (zones : Zone.Lookup) (options : List (String × Value)) :
    Except Failure (Context zones) :=
  ofOptions zones defaultTimezone defaultSchema options

/-- Makes a context from another one and options that replace its fields. -/
def replace (c : Context zones) (options : List (String × Value)) :
    Except Failure (Context zones) :=
  ofOptions zones (.text c.timezone) c.schema options

/-- The name of a table of pre-aggregated rows, with the schema unless that is to be left out. -/
def tableName (c : Context zones) (cube name skipSchema : Value) : String :=
  let bare := cube.shown ++ "_" ++ name.shown
  if skipSchema.isTrue then bare else c.schema.shown ++ "." ++ bare

/-- The parameters of a table's name. -/
def tableNameParameters : List Parameter :=
  [Arguments.required "cube", Arguments.required "pre_aggregation_name",
   Arguments.optional "skip_schema" (.bool false)]

/-- The name of a table for a call by position. -/
def tableNameOf (c : Context zones) (given : Arguments) : Except Failure String :=
  match Arguments.bind tableNameParameters [] given with
  | .ok [cube, name, skipSchema] => .ok (c.tableName cube name skipSchema)
  | .ok _ => .error .wrongType
  | .error e => .error e

/-- Whether two contexts are equal. -/
def same (c d : Context zones) : Bool :=
  c.timezone == d.timezone && c.schema.same d.schema

/-- How a context is shown. -/
def shown (c : Context zones) : String :=
  "QueryContext(timezone=" ++ Text.quoted c.timezone ++ ", pre_aggregations_schema=" ++
    c.schema.quoted ++ ")"

/-- A context can be made exactly if its time zone is the key of a zone. -/
theorem make_eq_ok_iff {timezone schema : Value} {c : Context zones} :
    make zones timezone schema = .ok c ↔
      timezone.text? = some c.timezone ∧ c.schema = schema := by
  unfold make
  cases ht : timezone.text? with
  | none => simp
  | some key =>
    simp only [Option.some.injEq]
    split
    · constructor
      · intro h
        cases h
        exact ⟨rfl, rfl⟩
      · rintro ⟨rfl, rfl⟩
        rfl
    · next fault h =>
      constructor
      · intro e
        cases e
      · rintro ⟨rfl, _⟩
        have := c.known
        rw [h] at this
        cases this

end Context

end SqlDialect
