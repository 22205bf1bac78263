import SqlDialect.Value.Shown
import SqlDialect.Zone.Key

/-!
# Failures

Why an operation gave no result, as a cause with what it concerns, and the message for each cause.
Causes that stem from the shape of a call, such as a missing argument or an argument of a kind that
the operation cannot use, have no message of their own; where an argument is refused for its name,
the cause has that name.
-/

namespace SqlDialect

/-- What is wrong with the arguments of a call. -/
inductive ArgumentFault where
  /-- A parameter is given twice. -/
  | repeated (name : String)
  /-- No parameter is called that. -/
  | unexpected (name : String)
  /-- There are more values by position than parameters. -/
  | tooMany
  /-- Parameters that have to be given are not. -/
  | missing (names : List String)
  deriving DecidableEq, Repr

/-- The cause of a failure. -/
inductive Failure where
  /-- No granularity is called that. -/
  | unsupportedGranularity (given : Value)
  /-- The name of a table, or whatever stands in its place, has too many elements. -/
  | tableNameTooLong (name : Value)
  /-- There is no time zone with that key. -/
  | zoneKey (fault : Zone.KeyFault)
  /-- A local time lies outside the years 1 to 9999. -/
  | dateOutOfRange
  /-- A text that should be a whole number is none, or has too many digits. -/
  | notInteger (text : String)
  /-- A text that should be a truth value is none. -/
  | notBoolean (text : String)
  /-- A template set has no such category or name. -/
  | missingKey (key : Value)
  /-- A template needs a parameter that was not given. -/
  | undefinedParameter (name : String)
  /-- The source of a template is malformed. -/
  | malformedTemplate
  /-- The fields of a context cannot be assigned. -/
  | frozenField
  /-- The arguments of a call do not fit the parameters of what is called. -/
  | arguments (fault : ArgumentFault)
  /-- Something has fields or options that it cannot have, or an argument is of the wrong kind. -/
  | wrongType
  /-- An argument that has to be a text is none. -/
  | notText
  /-- A name has no first character. -/
  | emptyName
  /-- A text is not a connection URL. -/
  | malformedUrl
  /-- A type is given a precision without a scale. -/
  | scaleMissing
  /-- An expression or column has no type that could be written; `place` says where. -/
  | untyped (place : String)
  /-- A column that should number its rows has a type that cannot. -/
  | autoincrementType (type column : String)
  /-- A constraint names a column that the table lacks. -/
  | unknownConstraintColumn (table column : String)
  /-- A table has two columns of one name. -/
  | repeatedColumn (table column : String)
  /-- An insertion names columns that the table lacks. -/
  | unconsumedColumns (names : List String)
  /-- An ordering or grouping names no label. -/
  | unresolvedLabel (name : String)
  /-- A constant is compared in a way that is not meant for constants. -/
  | comparedConstant
  /-- The database refused a statement. -/
  | refused (text : String)

/-- The most elements the name of a table may have. -/
def maxTableNameLength : Nat := 64

namespace Zone.KeyFault

/-- The message for a key that names no zone. -/
def message? : Zone.KeyFault → Option String
  | .notText => none
  | .absolute key => some ("ZoneInfo keys may not be absolute paths, got: " ++ key)
  | .notNormal key => some ("ZoneInfo keys must be normalized relative paths, got: " ++ key)
  | .outside key => some ("ZoneInfo keys must refer to subdirectories of TZPATH, got: " ++ key)
  | .unknown key => some (Text.quoted ("No time zone found with key " ++ key))

end Zone.KeyFault

namespace Failure

/-- The most characters of a label that a message shows. -/
def maxShownLabel : Nat := 25

/-- A text cut to a number of characters, with dots where the rest was. -/
def shortened (limit : Nat) (s : String) : String :=
  if limit < s.toList.length then String.ofList (s.toList.take limit) ++ "..." else s

/-- The most characters of a text between its quotes that a message on reading a number shows. -/
def maxShownNumeral : Nat := 200

/-- The message for a text that is no whole number. One that starts with too many digits is not
looked at any further. -/
def integerMessage (text : String) : String :=
  match Text.excessDigits? text with
  | some count =>
    "Exceeds the limit (" ++ Text.ofNat Text.maxDigits ++
      " digits) for integer string conversion: value has " ++ Text.ofNat count ++
      " digits; use sys.set_int_max_str_digits() to increase the limit"
  | none =>
    "invalid literal for int() with base 10: " ++
      String.ofList ((Text.quoted text).toList.take maxShownNumeral)

/-- The message of a failure, if its cause has one. -/
def message? : Failure → Option String
  | .unsupportedGranularity (.granularity g) => some ("Unsupported granularity: " ++ g.name)
  | .unsupportedGranularity given => some ("Unsupported granularity: " ++ given.shown)
  | .tableNameTooLong name =>
    some ("Doris cannot work with table names longer than " ++ Text.ofNat maxTableNameLength ++
      " symbols. Consider using the 'sql_alias' attribute in your cube and pre-aggregation " ++
      "definition for " ++ name.shown ++ ".")
  | .zoneKey fault => fault.message?
  | .dateOutOfRange => some "date value out of range"
  | .notInteger text => some (integerMessage text)
  | .notBoolean text => some ("String is not true/false: " ++ Text.quoted text)
  | .missingKey key => some key.quoted
  | .undefinedParameter name => some ("'" ++ name ++ "' is undefined")
  | .malformedUrl => some "Could not parse SQLAlchemy URL from given URL string"
  | .scaleMissing => some "You must specify both precision and scale or omit both altogether."
  | .untyped place =>
    some (place ++
      "Can't generate DDL for NullType(); did you forget to specify a type on this Column?")
  | .autoincrementType type column =>
    some ("Column type " ++ type ++ " on column '" ++ column ++
      "' is not compatible with autoincrement=True")
  | .unknownConstraintColumn table column =>
    some ("Can't create UniqueConstraint on table '" ++ table ++ "': no column named '" ++ column ++
      "' is present.")
  | .repeatedColumn table column =>
    some ("A column with name '" ++ column ++ "' is already present in table '" ++ table ++ "'.")
  | .unconsumedColumns names => some ("Unconsumed column names: " ++ Text.joined ", " names)
  | .unresolvedLabel name =>
    let shown := Text.quoted (shortened maxShownLabel name)
    some ("Can't resolve label reference for ORDER BY / GROUP BY / DISTINCT etc. Textual SQL " ++
      "expression " ++ shown ++ " should be explicitly declared as text(" ++ shown ++ ")")
  | .comparedConstant =>
    some ("Only '='/'!=', 'is_()', 'is_not()', 'is_distinct_from()', 'is_not_distinct_from()' " ++
      "operators can be used with None/True/False")
  | .refused text => some text
  | .malformedTemplate | .frozenField | .arguments _ | .wrongType | .notText | .emptyName => none

end Failure

end SqlDialect
