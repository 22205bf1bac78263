import SqlDialect.Outcome

/-!
# Flooring a timestamp in SQL

`Granularity.bucketExpression` is SQL that floors a date expression to the start of a granularity's
bucket. Most buckets format the date with the finer fields fixed. Weeks and quarters count the whole
units since a reference date, which is a Monday and the first day of a quarter, and add them to it
again.

`timeGroupedColumn` is the complete rule: the granularity is read first, then the bucket is cast to
a timestamp, and the result is noted down.
-/

namespace SqlDialect.Granularity

/-- The granularity that a value refers to: a member itself, or the name of one. -/
def parse (v : Value) : Except Failure Granularity :=
  match v with
  | .granularity g => .ok g
  | .text s =>
    match ofName? s with
    | some g => .ok g
    | none => .error (.unsupportedGranularity v)
  | _ => .error (.unsupportedGranularity v)

/-- The date from which weeks and quarters are counted. -/
def referenceDate : String := "1900-01-01"

/-! ## Patterns that keep the fields of a timestamp down to a unit and fix the finer ones -/

/-- Keeps everything down to the second. -/
def secondPattern : String := "%Y-%m-%dT%H:%i:%S.000"

/-- Keeps everything down to the minute. -/
def minutePattern : String := "%Y-%m-%dT%H:%i:00.000"

/-- Keeps everything down to the hour. -/
def hourPattern : String := "%Y-%m-%dT%H:00:00.000"

/-- Keeps the date. -/
def dayPattern : String := "%Y-%m-%dT00:00:00.000"

/-- Keeps the year and the month. -/
def monthPattern : String := "%Y-%m-01T00:00:00.000"

/-- Keeps the year. -/
def yearPattern : String := "%Y-01-01T00:00:00.000"

/-! ## Buckets -/

/-- A date formatted with a pattern. -/
def dateFormat (date pattern : String) : String :=
  "DATE_FORMAT(" ++ date ++ ", '" ++ pattern ++ "')"

/-- The reference date plus the whole units of time from it to a date. -/
def sinceReference (date unit : String) : String :=
  "DATE_ADD('" ++ referenceDate ++ "', INTERVAL TIMESTAMPDIFF(" ++ unit ++ ", '" ++ referenceDate ++
    "', " ++ date ++ ") " ++ unit ++ ")"

/-- The start of a date's bucket, not yet cast to a timestamp. -/
def bucketExpression (g : Granularity) (date : String) : String :=
  match g with
  | .second => dateFormat date secondPattern
  | .minute => dateFormat date minutePattern
  | .hour => dateFormat date hourPattern
  | .day => dateFormat date dayPattern
  | .week => dateFormat (sinceReference date "WEEK") dayPattern
  | .month => dateFormat date monthPattern
  | .quarter => sinceReference date "QUARTER"
  | .year => dateFormat date yearPattern

/-- The start of a date's bucket as a timestamp. -/
def bucketTimestamp (g : Granularity) (date : String) : String :=
  "CAST(" ++ bucketExpression g date ++ " AS DATETIME)"

/-- The bucket of a dimension, both given as values. -/
def timeGroupedColumn (granularity dimension : Value) : Outcome String :=
  match parse granularity with
  | .error e => .fail e
  | .ok g =>
    let sql := bucketTimestamp g dimension.shown
    (Outcome.note .granularity .debug
      ("time grouped column for granularity: " ++ g.name ++ ", dimension: " ++ dimension.shown ++
        ", sql: " ++ sql)).bind fun _ => .ok sql

/-- The bucket of a date for a granularity that has to be a member; its name does not do. -/
def bucketOfMember (granularity : Value) (date : Value) : Except Failure String :=
  match granularity with
  | .granularity g => .ok (bucketExpression g date.shown)
  | v => .error (.unsupportedGranularity v)

@[simp] theorem parse_granularity (g : Granularity) : parse (.granularity g) = .ok g := rfl

@[simp] theorem parse_name (g : Granularity) : parse (.text g.name) = .ok g := by
  cases g <;> rfl

/-- What is read as a granularity is the text of its name. -/
theorem text?_of_parse {v : Value} {g : Granularity} (h : parse v = .ok g) :
    v.text? = some g.name := by
  unfold parse at h
  split at h
  · cases h
    rfl
  · split at h
    · next s g' hname =>
      cases h
      exact congrArg some (ofName?_eq_some_iff.mp hname)
    · cases h
  · cases h

/-- What cannot be read as a granularity is what the failure is about. -/
theorem parse_error {v : Value} {e : Failure} (h : parse v = .error e) :
    e = .unsupportedGranularity v := by
  unfold parse at h
  split at h
  · cases h
  · split at h
    · cases h
    · cases h
      rfl
  · cases h
    rfl

/-- A granularity given to an operation, by its name or as a member. -/
def given (g : Granularity) (isNamed : Bool) : Value :=
  if isNamed then .text g.name else .granularity g

theorem parse_given (g : Granularity) (isNamed : Bool) : parse (g.given isNamed) = .ok g := by
  cases isNamed
  · exact parse_granularity g
  · exact parse_name g

end SqlDialect.Granularity
