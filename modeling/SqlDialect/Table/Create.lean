import SqlDialect.ColumnType.Adapted
import SqlDialect.Identifier.Written
import SqlDialect.Table.Options

/-!
# Creating tables

The statement that creates a table: its name, a line for each column, the primary key, the sets of
columns whose values must not repeat, and the options. The length of the table's name is checked
before anything else, and the statement is noted down when it is complete.

Main statement: `create_of_short`, by which the length of a name that is short enough does not
matter.
-/

namespace SqlDialect.Table

/-! ## Names -/

/-- The name of a column as it is written. -/
def Column.written (c : Column) : Except Failure String :=
  match c.isQuoted with
  | none => Identifier.written c.name
  | some true => .ok (Identifier.writtenQuoted c.name)
  | some false => .ok c.name

/-! ## Numbered rows -/

/-- Whether the database could number rows in a column of a type. -/
def canNumber (t : ColumnType) : Bool :=
  t.isInteger

/-- Refuses a column that is to number rows but cannot. -/
def checkNumbering (table : String) (c : Column) : Except Failure Unit :=
  if canNumber c.type then .ok ()
  else .error (.autoincrementType c.type.name (Text.concat [table, ".", c.name]))

/-- The column that numbers rows: one of the primary key that says so, or the only column of the
primary key if it can and has no default. -/
def Definition.numberingColumn? (t : Definition) : Except Failure (Option String) :=
  match t.columns.filter Column.isPrimary with
  | [c] =>
    match c.isNumbered with
    | some true => (checkNumbering t.name c).map fun _ => some c.name
    | some false => .ok none
    | none => .ok (if canNumber c.type && c.default.isNone then some c.name else none)
  | keys =>
    let marked := keys.filter fun c => c.isNumbered = some true
    (marked.forM (checkNumbering t.name)).map fun _ => marked.head?.map Column.name

/-! ## Columns -/

/-- A part of a column with a word in front, if the part is there. -/
def textPart (word : String) : Option String → List String
  | none => []
  | some s => [word ++ Literal.ofText s]

/-- Where a column stands, for a failure that concerns its type. -/
def placeOf (table column : String) : String :=
  Text.concat ["(in table '", table, "', column '", column, "'): "]

/-- A column of a table as it is written. -/
def Definition.columnText (t : Definition) (c : Column) : Except Failure String := do
  let name ← c.written
  let type ← c.type.writtenAt (placeOf t.name c.name)
  let _ ← c.type.adapted
  let numbering ← t.numberingColumn?
  let isNumbering := numbering == some c.name && c.default.isNone
  pure (Text.joined " " ([name, type] ++ (if c.mayBeNull then [] else ["NOT NULL"]) ++
    textPart "COMMENT " c.comment ++
    (if isNumbering then ["AUTO_INCREMENT"] else textPart "DEFAULT " c.default)))

/-! ## Sets of columns -/

/-- The written name of a column of the table. -/
def Definition.writtenColumn (t : Definition) (name : String) : Except Failure String :=
  match t.columns.find? fun c => c.name = name with
  | some c => c.written
  | none => Identifier.written name

/-- A set of columns with a word in front. An empty set is not written. -/
def Definition.setText (t : Definition) (word : String) (names : List String) :
    Except Failure String :=
  match names with
  | [] => .ok ""
  | _ => (names.mapM t.writtenColumn).map fun names =>
    Text.concat [word, " (", Text.joined ", " names, ")"]

/-- The columns of the primary key; the one that numbers rows comes first. -/
def Definition.primaryKey (t : Definition) : Except Failure (List String) :=
  let names := (t.columns.filter Column.isPrimary).map Column.name
  t.numberingColumn?.map fun numbering =>
    match numbering with
    | some name => name :: names.filter (· ≠ name)
    | none => names

/-- The primary key and the sets of columns whose values must not repeat. -/
def Definition.constraintTexts (t : Definition) : Except Failure (List String) := do
  let key ← t.primaryKey
  let keyTexts ← if key.isEmpty then pure [] else (t.setText "PRIMARY KEY" key).map fun s => [s]
  let uniqueTexts ← t.unique.mapM (t.setText "UNIQUE")
  pure (keyTexts ++ uniqueTexts)

/-- The lines on constraints as one line; there is none if it would be empty. -/
def constraintLines (texts : List String) : List String :=
  let line := Text.joined ", \n\t" texts
  if line.isEmpty then [] else [line]

/-! ## The statement -/

/-- The lines of a table between its brackets. -/
def linesText (lines : List String) : String :=
  match lines with
  | [] => ""
  | _ => "\n\t" ++ Text.joined ", \n\t" lines

/-- The statement that creates a table. -/
def Definition.createText (t : Definition) (ifAbsent : Bool) : Except Failure String := do
  let name ← Identifier.writtenIn t.schema t.name
  let columns ← t.columns.mapM t.columnText
  let constraints ← t.constraintTexts
  let options ← t.optionsText
  pure (Text.concat ["\nCREATE TABLE ", if ifAbsent then "IF NOT EXISTS " else "", name, " (",
    linesText (columns ++ constraintLines constraints), "\n)", options, "\n\n"])

/-- What is noted down about a statement. -/
def Definition.creationNote (t : Definition) (text : String) : String :=
  Text.concat ["create table text for table: ", t.name, ", schema: ", t.schema.getD "None",
    ", text: ", text]

/-- The statement that creates a table whose name is short enough, noted down. -/
def Definition.create (t : Definition) (ifAbsent : Bool) : Outcome String :=
  (Identifier.checkTableName (.text t.name)).bind fun _ =>
    (Outcome.silent (t.createText ifAbsent)).bind fun text =>
      (Outcome.note .dialect .debug (t.creationNote text)).bind fun _ => .ok text

/-- With a name that is short enough the result is that of the statement. -/
theorem create_of_short {t : Definition} (ifAbsent : Bool)
    (h : Identifier.isShortEnough t.name = true) :
    (t.create ifAbsent).result = t.createText ifAbsent := by
  have hcheck := Identifier.checkTableName_text t.name
  rw [h] at hcheck
  simp only [Definition.create, Outcome.bind, hcheck]
  cases t.createText ifAbsent <;> rfl

end SqlDialect.Table
