import SqlDialect.Identifier.Written
import SqlDialect.Statement.Operand
import SqlDialect.Statement.Piece
import SqlDialect.Table.Definition
import SqlDialect.Text.Number

/-!
# Sources of a query

Queries, and what they take their columns from: tables, other names for sources, and queries again.
An environment keeps sources under keys, the latest first, so that a source refers only to what
comes behind it and every look-up ends.

A source without a given name gets a generated one.
-/

namespace SqlDialect.Statement

/-- What a query takes its rows from. -/
inductive Origin where
  | source (key : String)
  | join (left right : String) (condition : Expression) (isOuter : Bool)

/-- A query. -/
structure Select where
  columns : List Expression
  origins : List Origin := []
  conditions : List Expression := []
  grouping : List Expression := []
  groupConditions : List Expression := []
  ordering : List Expression := []
  limit : Option Value := none
  offset : Option Value := none
  isDistinct : Bool := false
  /-- Whether the labels of columns start with the names of their tables. -/
  isQualified : Bool := false

/-- What columns are taken from. -/
inductive Source where
  | table (definition : Table.Definition)
  /-- Another name for the source with a key. -/
  | alias (key : String) (name : Option String)
  | subquery (query : Select) (name : Option String)

/-- Sources under their keys, the latest first. A source refers only to those behind it. -/
abbrev Environment := List (String × Source)

/-! ## Generated names -/

/-- Whether a character is changed in the base of a generated name. -/
def isChangedChar (c : Char) : Bool :=
  c = '%' || c = '(' || c = ')' || c = ' ' || c = '$'

/-- The base with one underscore in place of each run of characters that are changed. -/
def cleanFrom (wasChanged : Bool) : List Char → List Char
  | [] => []
  | c :: rest =>
    if isChangedChar c then
      if wasChanged then cleanFrom true rest else '_' :: cleanFrom true rest
    else c :: cleanFrom false rest

/-- The base of a generated name. -/
def cleanBase (base : String) : String :=
  String.ofList (cleanFrom false base.toList)

/-- What stands for an expression without a name. -/
def anonymousBase : String := "anon"

namespace Name

/-- The generated name of a label or a source. -/
def anonymous (base : String) (mark : Mark) : Name :=
  [.numbered (cleanBase (if base.isEmpty then anonymousBase else base)) mark]

/-- The generated name of a parameter, whose base has no underscores at its ends. -/
def ofParameter (base : String) (mark : Mark) : Name :=
  let clean := (cleanFrom false base.toList).dropWhile (· = '_')
  [.numbered (String.ofList (clean.reverse.dropWhile (· = '_')).reverse) mark]

/-- A name followed by a text. -/
def followedBy (name : Name) (s : String) : Name :=
  match name with
  | [.text t] => [.text (t ++ s)]
  | parts => parts ++ [.text s]

/-- A name made different from others by a number. -/
def withNumber (name : Name) (mark : Mark) : Name :=
  match name with
  | [.text t] => anonymous t mark
  | parts => parts ++ [.numbered "" mark]

/-- A name made different from others by a number after two underscores. -/
def withRepeat (name : Name) (mark : Mark) : Name :=
  match name with
  | [.text t] => anonymous (t ++ "_") mark
  | parts => parts ++ [.text "_", .numbered "" mark]

/-- The text that a name is, if nothing in it is generated. -/
def plain? : Name → Option String
  | [.text s] => some s
  | _ => none

end Name

/-! ## Columns -/

/-- A label made different from the names that are taken. -/
def distinctFrom (taken : List String) (label : String) : String :=
  if taken.contains label then
    (((List.range (taken.length + 1)).map fun k => label ++ "_" ++ Text.ofNat (k + 1)).find?
      fun candidate => !taken.contains candidate).getD label
  else label

/-- The label of a column that starts with the name of its source. -/
def qualifiedLabel (head : Name) (taken : List String) (column : String) : Name :=
  match Name.followedBy head ("_" ++ column) with
  | [.text s] => [.text (distinctFrom taken s)]
  | parts => parts

namespace Expression

/-- The name under which a column of a query can be taken from it. -/
def exported? (label : String → String → Name) : Expression → Option String
  | .column source name _ => (label source name).plain?
  | .text sql _ => some sql
  | .bareColumn name => some name
  | .label _ name => some name
  | .cast e _ => exported? label e
  | _ => none

end Expression

/-- The columns that can be taken from a query. -/
def Select.exported (q : Select) (label : String → String → Name) : List (String × ColumnType) :=
  let label (source name : String) : Name :=
    if q.isQualified then label source name else [.text name]
  q.columns.filterMap fun e => (e.exported? label).map fun name => (name, e.type)

namespace Environment

/-- The source with a key, and what comes behind it. -/
def find? : Environment → String → Option (Source × Environment)
  | [], _ => none
  | (k, s) :: rest, key => if k = key then some (s, rest) else find? rest key

/-- The name that other names for a source are made from. -/
def basis (env : Environment) (key : String) : String :=
  match env.find? key with
  | some (.table t, _) => t.name
  | some (.alias _ (some name), _) => name
  | some (.subquery _ (some name), _) => name
  | _ => anonymousBase

/-- What the labels of the columns of a source start with. -/
def head (env : Environment) (key : String) : Name :=
  match env.find? key with
  | some (.table t, _) =>
    match t.schema with
    | some schema =>
      if schema.isEmpty then [.text t.name]
      else [.text (Text.replace "." "_" schema ++ "_" ++ t.name)]
    | none => [.text t.name]
  | some (.alias _ (some name), _) => [.text name]
  | some (.subquery _ (some name), _) => [.text name]
  | some (.alias inner none, rest) => Name.anonymous (basis rest inner) (.source key)
  | _ => Name.anonymous anonymousBase (.source key)

/-- The columns of a source. -/
def columnsOf : Environment → String → List (String × ColumnType)
  | [], _ => []
  | (k, s) :: rest, key =>
    if k = key then
      match s with
      | .table t => t.columns.map fun c => (c.name, c.type)
      | .alias inner _ => columnsOf rest inner
      | .subquery q _ =>
        q.exported fun source column =>
          qualifiedLabel (head rest source) ((columnsOf rest source).map Prod.fst) column
    else columnsOf rest key

/-- The label of a column that starts with the name of its source. -/
def labelOf (env : Environment) (source column : String) : Name :=
  qualifiedLabel (env.head source) ((env.columnsOf source).map Prod.fst) column

/-- A column of a source. -/
def column (env : Environment) (key name : String) : Except Failure Expression :=
  match env.find? key with
  | none => .error (.missingKey (.text key))
  | some _ =>
    match (env.columnsOf key).lookup name with
    | some type => .ok (.column key name type)
    | none => .error (.missingKey (.text name))

/-- The name of a source in front of its columns. -/
def qualifier (env : Environment) (key : String) : Except Failure Pieces :=
  match env.find? key with
  | none => .error (.missingKey (.text key))
  | some (.table t, _) => (Identifier.writtenIn t.schema t.name).map fun s => [.text s]
  | some (.alias _ (some name), _) => (Identifier.written name).map fun s => [.text s]
  | some (.subquery _ (some name), _) => (Identifier.written name).map fun s => [.text s]
  | some (.alias _ none, _) => .ok [.name .source (env.head key)]
  | some (.subquery _ none, _) => .ok [.name .source (env.head key)]

end Environment

end SqlDialect.Statement
