import SqlDialect.Text.Blank
import SqlDialect.Failure

/-!
# Generic type names

The type of a column as a database reports it, such as `VARCHAR(255)`, reduced to the name of a
family of types, such as `text`. Only the first word counts, in any case; a word that belongs to no
family stands for itself, and a text without a first word is left alone.
-/

namespace SqlDialect.ColumnType

/-- The family of each type name. -/
def families : List (String × String) :=
  [("string", "text"), ("varchar", "text"), ("char", "text"), ("text", "text"), ("json", "text"),
   ("jsonb", "text"), ("tinyint", "int"), ("smallint", "int"), ("int", "int"), ("integer", "int"),
   ("bigint", "int"), ("largeint", "int"), ("decimal", "decimal"), ("decimalv2", "decimal"),
   ("decimalv3", "decimal"), ("float", "double"), ("double", "double"), ("boolean", "boolean"),
   ("date", "date"), ("datev2", "date"), ("datetime", "timestamp"), ("datetimev2", "timestamp"),
   ("timestamp", "timestamp")]

/-- Whether a character belongs to the names of types. -/
def isNameChar (c : Char) : Bool :=
  c.isAlphanum || c = '_'

/-- The first word of a text, which blanks may precede. -/
def firstWord (s : List Char) : List Char :=
  (Text.trimStart s).takeWhile isNameChar

/-- The family of a name, or the name itself. -/
def familyOf (name : String) : String :=
  (families.lookup name).getD name

/-- The generic name of a type as it is reported. -/
def genericName (reported : String) : String :=
  match firstWord reported.toList with
  | [] => reported
  | c :: word => familyOf (String.ofList ((c :: word).map Char.toLower))

/-- The generic name of a type given as a value. Nothing and the empty text are left alone. -/
def genericValue (reported : Value) : Except Failure Value :=
  if reported.isTrue then
    match reported with
    | .text s => .ok (.text (genericName s))
    | .granularity g => .ok (.text (genericName g.name))
    | _ => .error .wrongType
  else .ok reported

end SqlDialect.ColumnType
