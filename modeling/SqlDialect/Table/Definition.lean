import SqlDialect.ColumnType.Basic
import SqlDialect.Failure
import SqlDialect.Keyed

/-!
# Definitions of tables

A table is defined by a name, perhaps within a schema, by columns, by sets of columns whose values
must not repeat, and by options of the database that keeps it. `Definition.make` puts a definition
together from what a caller gives. It refuses two columns of one name, a set with a column that
the table lacks, and an option that does not say whose it is.

That no two columns have the same name is part of the type `Definition`.
-/

namespace SqlDialect.Table

/-- A column of a table. What is left open is decided when the table is created. -/
structure Column where
  name : String
  type : ColumnType
  isPrimary : Bool := false
  isNullable : Option Bool := none
  /-- Whether the database numbers the rows in this column. -/
  isNumbered : Option Bool := none
  default : Option String := none
  comment : Option String := none
  isUnique : Bool := false
  /-- Whether the name is written between quotes. -/
  isQuoted : Option Bool := none

namespace Column

/-- Whether a column may hold nothing. A column of the primary key may not, unless it says so. -/
def mayBeNull (c : Column) : Bool :=
  c.isNullable.getD (!c.isPrimary)

end Column

/-- What a caller gives for a table. -/
structure Request where
  name : String
  schema : Option String
  columns : List Column
  unique : List (List String)
  comment : Option String
  /-- Options under their full names, which start with the name of a database. -/
  options : List (String × Value)

/-- A table. -/
structure Definition where
  name : String
  schema : Option String
  columns : List Column
  columnNames_nodup : (columns.map Column.name).Nodup
  unique : List (List String)
  comment : Option String
  options : Keyed Value

/-! ## Options -/

/-- Whether a full name of an option has a first part before an underscore and a second part behind
it. -/
def isOptionName (key : String) : Bool :=
  match key.toList with
  | [] => false
  | _ :: rest =>
    match rest.dropWhile (· ≠ '_') with
    | _ :: _ :: _ => true
    | _ => false

/-- What the full names of the options of this database start with. -/
def ownMark : String := "doris_"

/-- The name of an option of this database, if it is one. -/
def ownOption? (key : String) : Option String :=
  if ownMark.toList.isPrefixOf key.toList then
    some (String.ofList ((key.toList.drop ownMark.toList.length).map Char.toUpper))
  else none

/-- The options of this database under their own names. -/
def ownOptions (options : List (String × Value)) : Keyed Value :=
  Keyed.ofList (options.filterMap fun entry =>
    (ownOption? entry.1).map fun name => (name, entry.2))

/-! ## Checks -/

/-- The first name that occurs a second time. -/
def repeated? : List String → List String → Option String
  | _, [] => none
  | seen, name :: rest => if seen.contains name then some name else repeated? (name :: seen) rest

/-- The names in the order in which they first occur. -/
def firstOccurrences (names : List String) : List String :=
  (names.foldl (fun kept name => if kept.contains name then kept else name :: kept) []).reverse

/-- The first column of some sets that is not among the given names. -/
def unknownColumn? (names : List String) (sets : List (List String)) : Option String :=
  sets.flatten.find? fun name => !names.contains name

/-- The sets of columns without repeated values: first those of single columns that say so
themselves. -/
def uniqueSets (columns : List Column) (sets : List (List String)) : List (List String) :=
  (columns.filter Column.isUnique).map (fun c => [c.name]) ++ sets.map firstOccurrences

/-- A table from what a caller gives. -/
def Definition.make (r : Request) : Except Failure Definition :=
  if r.options.any fun entry => !isOptionName entry.1 then .error .wrongType
  else
    let names := r.columns.map Column.name
    if h : names.Nodup then
      match unknownColumn? names r.unique with
      | some name => .error (.unknownConstraintColumn r.name name)
      | none =>
        .ok ⟨r.name, r.schema, r.columns, h, uniqueSets r.columns r.unique, r.comment,
          ownOptions r.options⟩
    else .error (.repeatedColumn r.name ((repeated? [] names).getD ""))

end SqlDialect.Table
