import SqlDialect.Statement.Caption
import SqlDialect.Statement.Render

/-!
# Queries in SQL

How a query is written. Its parts come in the order of SQL, and names take their numbers in that
order too; only the offset comes before the limit.

What a query takes its rows from are the sources that it gives, and then those of the columns that
it uses, each once. An ordering can refer to a column by its label, and is then written as the
label.
-/

namespace SqlDialect.Statement

/-! ## Clauses -/

/-- The parts of a query that hold expressions. -/
inductive Clause where
  | columns | origins | conditions | grouping | groupConditions | ordering | offset | limit
  deriving DecidableEq, Repr

/-- The number of a part. -/
def Clause.index : Clause → Nat
  | .columns => 0
  | .origins => 1
  | .conditions => 2
  | .grouping => 3
  | .groupConditions => 4
  | .ordering => 5
  | .offset => 6
  | .limit => 7

/-- The place of a part of the query. -/
def Scope.clause (s : Scope) (c : Clause) : Place :=
  s.home.child c.index

/-- A part behind its words; nothing if there is nothing in it. -/
def clausePieces (words : String) (pieces : Pieces) : Pieces :=
  if pieces.isBlank then [] else .text words :: pieces

/-- Parts of a list with commas between them. -/
def listedPieces (parts : List Pieces) : Pieces :=
  Pieces.joined [.text ", "] (parts.filter fun p => !p.isBlank)

/-! ## Columns -/

/-- A label behind what it labels. -/
def labelled (pieces : Pieces) (label : String) : Except Failure Pieces :=
  (Identifier.written label).map fun w => pieces ++ [.text (" AS " ++ w)]

namespace Expression

/-- A column without a label. A label inside a negation or an ordering is shown there. -/
def renderBare (s : Scope) (place : Place) (e : Expression) : Outcome Pieces :=
  match e with
  | .unary op (.label inner name) =>
    (inner.render s ((place.child 0).child 0)).bind fun p =>
      .silent ((labelled (p.bracketedIf (inner.isBracketedIn op)) name).map (unaryPieces op))
  | .isTrue isNegated (.label inner name) =>
    ((Expression.isTrue isNegated inner).render s place).bind fun p => .silent (labelled p name)
  | e => e.render s place

/-- A column with its caption. The number of a generated name is fixed before the column. -/
def renderColumn (s : Scope) (place : Place) (e : Expression) : Caption → Outcome Pieces
  | .bare => e.renderBare s place
  | .given name => (e.render s place).bind fun p => .silent (labelled p name)
  | .generated name =>
    (e.render s place).mapResult fun p =>
      .reserve .label name :: p ++ [.text " AS ", .name .label name]

/-- The columns of a query from a number on. -/
def renderColumns (s : Scope) (i : Nat) : List (Expression × Caption) → Outcome (List Pieces)
  | [] => .ok []
  | (e, c) :: rest =>
    (e.renderColumn s (s.columnPlace i) c).bind fun p =>
      (renderColumns s (i + 1) rest).mapResult (p :: ·)

end Expression

namespace Select

/-- The captions of the columns of a query. -/
def captions (q : Select) (s : Scope) (isSource : Bool) : List Caption :=
  Expression.captions s.environment q.isQualified isSource (s.clause .columns) 0 [] q.columns

/-! ## Origins -/

/-- The sources that are joined. -/
def joinedSources : List Origin → List String
  | [] => []
  | .source _ :: rest => joinedSources rest
  | .join left right _ _ :: rest => left :: right :: joinedSources rest

/-- Origins without the sources that have come up. -/
def withoutRepeats : List String → List Origin → List Origin
  | _, [] => []
  | seen, .source key :: rest =>
    if seen.contains key then withoutRepeats seen rest
    else .source key :: withoutRepeats (key :: seen) rest
  | seen, join :: rest => join :: withoutRepeats seen rest

/-- All that a query takes its rows from: what it gives, and the sources of the columns that it
uses. A source that is joined does not stand on its own. -/
def allOrigins (q : Select) : List Origin :=
  let used := Expression.sourcesOfAll q.columns ++ Expression.sourcesOfAll q.conditions
  withoutRepeats (joinedSources q.origins) (q.origins ++ used.map .source)

/-- A source or a join. -/
def renderOrigin (s : Scope) (source : String → Outcome Pieces) (i : Nat) : Origin → Outcome Pieces
  | .source key => source key
  | .join left right condition isOuter =>
    (source left).bind fun l =>
      (source right).bind fun r =>
        (condition.render s ((s.clause .origins).child i)).mapResult fun c =>
          l ++ .text (if isOuter then " LEFT OUTER JOIN " else " INNER JOIN ") :: r ++
            .text " ON " :: c

/-- Origins from a number on. -/
def renderOrigins (s : Scope) (source : String → Outcome Pieces) (i : Nat) :
    List Origin → Outcome (List Pieces)
  | [] => .ok []
  | o :: rest =>
    (renderOrigin s source i o).bind fun p =>
      (renderOrigins s source (i + 1) rest).mapResult (p :: ·)

/-- What stands in place of the origins. A condition needs something to be a condition on. -/
def originsPieces (hasConditions : Bool) (parts : List Pieces) : Pieces :=
  if parts.isEmpty then if hasConditions then [.text " FROM DUAL"] else []
  else .text " \nFROM " :: Pieces.joined [.text ", "] parts

/-! ## References -/

/-- The name by which a column of a query can be referred to. -/
def referenceName? (env : Environment) : Expression → Option String
  | .text sql _ => some sql
  | e => (e.qualified? env).bind Name.plain?

/-- The number of the last column with a name, counting from a number on. -/
def lastWithName? (env : Environment) (name : String) (i : Nat) : List Expression → Option Nat
  | [] => none
  | e :: rest =>
    (lastWithName? env name (i + 1) rest).or
      (if referenceName? env e = some name then some i else none)

/-- The last column of some sources with a name. -/
def sourceColumn? (env : Environment) (name : String) : List String → Option Expression
  | [] => none
  | key :: rest =>
    (sourceColumn? env name rest).or
      (((env.columnsOf key).lookup name).map fun type => .column key name type)

/-- The sources of origins. -/
def keysOf : List Origin → List String
  | [] => []
  | .source key :: rest => key :: keysOf rest
  | .join left right _ _ :: rest => left :: right :: keysOf rest

/-- What a name refers to: a column of the query, which is written as its label if it has one, or a
column of its sources. -/
def resolve (q : Select) (env : Environment) (name : String) : Except Failure Expression :=
  match lastWithName? env name 0 q.columns with
  | some i =>
    match q.columns[i]? with
    | some (.label _ given) => .ok (.bareColumn given)
    | some e => .ok (.columnRef i e)
    | none => .error (.unresolvedLabel name)
  | none =>
    match sourceColumn? env name (keysOf q.allOrigins) with
    | some e => .ok e
    | none => .error (.unresolvedLabel name)

/-- Whether a label of the query stands for the same as a label with its name elsewhere: it is the
same column of the query, or both are for one column of a source. -/
def isOwnLabel (q : Select) (env : Environment) (name : String) (index : Option Nat)
    (e : Expression) : Bool :=
  match lastWithName? env name 0 q.columns with
  | none => false
  | some i =>
    index = some i ||
      match e.column?, (q.columns[i]?).bind Expression.column? with
      | some a, some b => a = b
      | _, _ => false

/-- The label that is written for an expression in an ordering. -/
def labelFor? (q : Select) (env : Environment) : Expression → Option String
  | .columnRef i (.label e name) => if q.isOwnLabel env name (some i) e then some name else none
  | .label e name => if q.isOwnLabel env name none e then some name else none
  | _ => none

/-- An element of a grouping with its references resolved. -/
def resolveGroup (q : Select) (env : Environment) : Expression → Except Failure Expression
  | .labelRef name => q.resolve env name
  | .unary op e => (resolveGroup q env e).map (.unary op)
  | e => .ok e

/-- An element of an ordering with its references resolved. -/
def resolveOrder (q : Select) (env : Environment) : Expression → Except Failure Expression
  | .labelRef name => q.resolve env name
  | .unary op e =>
    -- Between brackets an operand is written in full, not as a label.
    if (op = .ascending || op = .descending) && !e.isBracketedIn op then
      (resolveOrder q env e).map (.unary op)
    else .ok (.unary op e)
  | e =>
    match q.labelFor? env e with
    | some name => .ok (.bareColumn name)
    | none => .ok e

/-- The elements of a grouping or an ordering from a number on. -/
def renderElements (s : Scope) (place : Place) (resolve : Expression → Except Failure Expression)
    (i : Nat) : List Expression → Outcome (List Pieces)
  | [] => .ok []
  | e :: rest =>
    (Outcome.silent (resolve e)).bind fun e =>
      (e.render s (place.child i)).bind fun p =>
        (renderElements s place resolve (i + 1) rest).mapResult (p :: ·)

/-! ## The query -/

/-- Conditions that have to hold together. -/
def renderConditions (s : Scope) (place : Place) (conditions : List Expression) :
    Outcome Pieces :=
  if conditions.isEmpty then .ok []
  else (Expression.junction .and conditions).render s place

/-- How many rows there are at most behind an offset, if nothing is said. -/
def allRows : String := "18446744073709551615"

/-- The value of a limit or an offset. -/
def boundPieces (s : Scope) (c : Clause) (v : Value) : Pieces :=
  s.parameter (Name.ofParameter Expression.plainBase (.place (s.clause c))) v

/-- The limit of a query. -/
def limitPieces (q : Select) (s : Scope) : Pieces :=
  match q.offset, q.limit with
  | none, none => []
  | none, some limit => .text " \n LIMIT " :: boundPieces s .limit limit
  | some offset, none =>
    .text " \n LIMIT " :: boundPieces s .offset offset ++ [.text (", " ++ allRows)]
  | some offset, some limit =>
    .text " \n LIMIT " :: boundPieces s .offset offset ++ .text ", " :: boundPieces s .limit limit

/-- The query, its sources being written by a function. -/
def render (q : Select) (s : Scope) (isSource : Bool) (source : String → Outcome Pieces) :
    Outcome Pieces :=
  (Expression.renderColumns s 0 (q.columns.zip (q.captions s isSource))).bind fun columns =>
  (renderOrigins s source 0 q.allOrigins).bind fun origins =>
  (renderConditions s (s.clause .conditions) q.conditions).bind fun conditions =>
  (renderElements s (s.clause .grouping) (q.resolveGroup s.environment) 0 q.grouping).bind
    fun grouping =>
  (renderConditions s (s.clause .groupConditions) q.groupConditions).bind fun groupConditions =>
  (renderElements s (s.clause .ordering) (q.resolveOrder s.environment) 0 q.ordering).mapResult
    fun ordering =>
      .text (if q.isDistinct then "SELECT DISTINCT " else "SELECT ") ::
        Pieces.joined [.text ", "] columns ++
        originsPieces (!q.conditions.isEmpty) origins ++
        clausePieces " \nWHERE " conditions ++
        clausePieces " GROUP BY " (listedPieces grouping) ++
        clausePieces " \nHAVING " groupConditions ++
        clausePieces " ORDER BY " (listedPieces ordering) ++
        q.limitPieces s

/-! ## Sources of others -/

/-- The query with one source in place of another. -/
def replaceSource (old new : String) (q : Select) : Select :=
  let f (key : String) : String := if key = old then new else key
  { q with
    columns := Expression.mapSourcesOfAll f q.columns
    origins := q.origins.map fun
      | .source key => .source (f key)
      | .join left right condition isOuter =>
        .join (f left) (f right) (condition.mapSources f) isOuter
    conditions := Expression.mapSourcesOfAll f q.conditions
    grouping := Expression.mapSourcesOfAll f q.grouping
    groupConditions := Expression.mapSourcesOfAll f q.groupConditions
    ordering := Expression.mapSourcesOfAll f q.ordering }

end Select

/-! ## Sources -/

/-- A source behind which its name is written, if it needs one there. The number of a generated name
is fixed before the source. -/
def namedPieces (isNamed : Bool) (given : Option String) (name : Name) (content : Outcome Pieces) :
    Outcome Pieces :=
  if isNamed then
    match given with
    | some name => content.bind fun p => .silent (labelled p name)
    | none =>
      content.mapResult fun p => .reserve .source name :: p ++ [.text " AS ", .name .source name]
  else content

/-- A source as it stands among the origins of a query. -/
def originPieces (isLiteral : Bool) : Environment → Bool → String → Outcome Pieces
  | [], _, key => .fail (.missingKey (.text key))
  | (k, s) :: rest, isNamed, key =>
    if k = key then
      match s with
      | .table t => .silent ((Identifier.writtenIn t.schema t.name).map fun w => [.text w])
      | .alias inner name =>
        namedPieces isNamed name (Environment.head ((k, s) :: rest) key)
          (originPieces isLiteral rest false inner)
      | .subquery q name =>
        namedPieces isNamed name (Environment.head ((k, s) :: rest) key)
          ((q.render ⟨isLiteral, ⟨some key, []⟩, rest⟩ true
            (originPieces isLiteral rest true)).mapResult (Pieces.bracketedIf true))
    else originPieces isLiteral rest isNamed key

end SqlDialect.Statement
