import SqlDialect.Statement.Render

/-!
# Insertions in SQL

How the insertion of a row is written. The columns stand in the order of the table, whatever the
order in which their values were given. A plain value is a parameter with the name of its column; if
no values are given at all, every column has a parameter without a value.
-/

namespace SqlDialect.Statement

/-- The insertion of a row into a table. -/
structure Insert where
  /-- The key of the table. -/
  table : String
  values : Option (List (String × Expression))

namespace Insert

/-- The value for a column, a later one winning over an earlier one. -/
def valueFor? (values : List (String × Expression)) (column : String) : Option Expression :=
  values.reverse.lookup column

/-- The columns that get a value, with it. -/
def entries (i : Insert) (columns : List String) : List (String × Expression) :=
  match i.values with
  | none => columns.map fun c => (c, .parameter c .null)
  | some values => columns.filterMap fun c => (valueFor? values c).map fun e => (c, e)

/-- The names that are given a value but are no columns. -/
def unknown (i : Insert) (columns : List String) : List String :=
  ((i.values.getD []).map Prod.fst).filter fun name => !columns.contains name

/-- The value of a column. -/
def renderValue (s : Scope) (place : Place) (column : String) : Expression → Outcome Pieces
  | .parameter _ value =>
    .ok (if s.isLiteral then [.text (Literal.ofValue value)] else [.fixed column value])
  | e => (e.render s place).mapResult (Pieces.bracketedIf e.isOperation)

/-- The values of columns from a number on. -/
def renderValues (s : Scope) (k : Nat) : List (String × Expression) → Outcome (List Pieces)
  | [] => .ok []
  | (column, e) :: rest =>
    (renderValue s (s.home.child k) column e).bind fun p =>
      (renderValues s (k + 1) rest).mapResult (p :: ·)

/-- The names of columns as they are written. -/
def writtenNames (columns : List String) : Except Failure (List String) :=
  columns.mapM Identifier.written

/-- The insertion. -/
def render (i : Insert) (s : Scope) : Outcome Pieces :=
  let columns := (s.environment.columnsOf i.table).map Prod.fst
  let entries := i.entries columns
  (renderValues s 0 entries).bind fun values =>
    if (i.unknown columns).isEmpty then
      (Outcome.silent (s.environment.qualifier i.table)).bind fun table =>
        (Outcome.silent (writtenNames (entries.map Prod.fst))).mapResult fun names =>
          .text "INSERT INTO " :: table ++
            .text (Text.concat [" (", Text.joined ", " names, ") VALUES ("]) ::
            Pieces.joined [.text ", "] values ++ [.text ")"]
    else .fail (.unconsumedColumns (i.unknown columns))

end Insert

end SqlDialect.Statement
