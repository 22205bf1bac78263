import SqlDialect.Granularity.Bucket
import SqlDialect.Identifier.Quote
import SqlDialect.Template.Catalog
import SqlDialect.Zone.Offset

/-!
# Rules of an engine

`Rules` is the list of all decisions that SQL for one engine depends on, one field for each. The
functions below are the rules themselves; most write their arguments into a pattern. The rule for
time zones takes the lookup of zones and the clock as arguments: the offset is the one that the zone
has at that instant.
-/

namespace SqlDialect

/-- How SQL for one engine is written. -/
structure Rules where
  name : String
  timeGroupedColumn : Value → Value → Outcome String
  addInterval : Value → Value → String
  subtractInterval : Value → Value → String
  convertTz : Zone.Lookup → Instant → Value → Value → Outcome String
  timeStampCast : Value → Value
  dateTimeCast : Value → String
  escapeColumnName : Value → Value → Except Failure String
  concatStrings : Value → Except Failure String
  castToString : Value → String
  unixTimestamp : String
  preAggregationTableName : Value → Outcome Value
  templates : Template.Catalog

namespace Rules

/-- A date some interval later. -/
def dateAdd (date interval : String) : String :=
  "DATE_ADD(" ++ date ++ ", INTERVAL " ++ interval ++ ")"

/-- A date some interval earlier. -/
def dateSub (date interval : String) : String :=
  "DATE_SUB(" ++ date ++ ", INTERVAL " ++ interval ++ ")"

/-- A timestamp made from a value. -/
def timestampOf (value : String) : String :=
  "TIMESTAMP(" ++ value ++ ")"

/-- A value as a text. -/
def charOf (sql : String) : String :=
  "CAST(" ++ sql ++ " as CHAR)"

/-- A time of the session's zone moved to a fixed offset. -/
def convertToOffset (field offset : String) : String :=
  "CONVERT_TZ(" ++ field ++ ", @@session.time_zone, '" ++ offset ++ "')"

/-- Texts put one after another. -/
def concatenation (parts : List String) : String :=
  "CONCAT(" ++ Text.joined ", " parts ++ ")"

/-- The seconds since the start of 1970. -/
def unixTimestampNow : String := "UNIX_TIMESTAMP()"

/-- Moves a field to the offset that a zone has now, and notes the offset down. -/
def convertToZone (zones : Zone.Lookup) (now : Instant) (field timezone : Value) : Outcome String :=
  match Zone.utcOffset zones timezone now with
  | .error e => .fail e
  | .ok offset =>
    (Outcome.note .mysql .debug
      ("resolved offset of timezone " ++ timezone.shown ++ " to " ++ offset)).bind
        fun _ => .ok (convertToOffset field.shown offset)

/-- The texts among which every value has to be. -/
def textsOf : List Value → Except Failure (List String)
  | [] => .ok []
  | v :: rest =>
    match v.text? with
    | none => .error .wrongType
    | some s =>
      match textsOf rest with
      | .ok more => .ok (s :: more)
      | .error e => .error e

/-- Puts the elements of a value one after another. All of them have to be texts. -/
def concatElements (strings : Value) : Except Failure String :=
  match strings.elements? with
  | none => .error .wrongType
  | some elements =>
    match textsOf elements with
    | .ok parts => .ok (concatenation parts)
    | .error e => .error e

theorem textsOf_text (parts : List String) : textsOf (parts.map Value.text) = .ok parts := by
  induction parts with
  | nil => rfl
  | cons s rest ih => simp [textsOf, ih]

theorem textsOf_error {values : List Value} {e : Failure} (h : textsOf values = .error e) :
    e = .wrongType := by
  induction values with
  | nil => cases h
  | cons v rest ih =>
    rw [textsOf] at h
    split at h
    · cases h
      rfl
    · split at h
      · cases h
      · next hrest =>
        cases h
        exact ih hrest

/-- Elements are put together unless there are none or one is no text. -/
theorem concatElements_error {strings : Value} {e : Failure}
    (h : concatElements strings = .error e) : e = .wrongType := by
  rw [concatElements] at h
  split at h
  · cases h
    rfl
  · split at h
    · cases h
    · next htexts =>
      cases h
      exact textsOf_error htexts

end Rules

end SqlDialect
