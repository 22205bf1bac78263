import SqlDialect.ColumnType.Basic
import SqlDialect.Granularity.Basic
import SqlDialect.Statement.Operator

/-!
# Expressions

The expressions that a statement is made of. The constructs of this dialect stand among them:
flooring a time to a granularity (`timeGrouped`), and moving it by an interval (`dateInterval`).

A table, or whatever takes the place of one, is referred to by a key. `columnRef` refers to a column
of the query around it, and `labelRef` to a label of it by its name.
-/

namespace SqlDialect.Statement

mutual

/-- An expression. -/
inductive Expression where
  /-- A column of a source. -/
  | column (source name : String) (type : ColumnType)
  /-- SQL as it is. -/
  | text (sql : String) (type : ColumnType)
  /-- A column of which only the name is known. -/
  | bareColumn (name : String)
  /-- A parameter; its name is made from a base. -/
  | parameter (base : String) (value : Value)
  | null
  | truth (b : Bool)
  | timeGrouped (granularity : Granularity) (e : Expression)
  | dateInterval (isEarlier : Bool) (e : Expression) (interval : Value)
  | cast (e : Expression) (type : ColumnType)
  | call (function : String) (arguments : List Expression)
  | unary (op : Operator) (e : Expression)
  /-- Whether a truth value holds, or does not. -/
  | isTrue (isNegated : Bool) (e : Expression)
  | binary (op : Operator) (a b : Expression)
  | operations (op : Operator) (operands : List Expression)
  /-- Whether a value is among the elements of a list, or is not. -/
  | member (isExcluded : Bool) (e : Expression) (base : String) (values : List Value)
  | between (isExcluded : Bool) (e low high : Expression)
  | cases (branches : Branches)
  | label (e : Expression) (name : String)
  | columnRef (index : Nat) (e : Expression)
  | labelRef (name : String)

/-- The branches of a choice, which may end with a result for all other cases. -/
inductive Branches where
  | done
  | otherwise (result : Expression)
  | when (condition result : Expression) (rest : Branches)

end

instance : Inhabited Expression := ⟨.null⟩

namespace Expression

/-! ## Brackets -/

/-- The operator of an operation. Orderings do not count as operators, and a label is what it
labels. -/
def operator? : Expression → Option Operator
  | .unary op _ => if op = .ascending || op = .descending then none else some op
  | .binary op _ _ => some op
  | .operations op _ => some op
  | .member isExcluded _ _ _ => some (if isExcluded then .notIn else .isIn)
  | .between isExcluded _ _ _ => some (if isExcluded then .notBetween else .between)
  | .label e _ => operator? e
  | .columnRef _ e => operator? e
  | _ => none

/-- Whether an expression is an operation. -/
def isOperation (e : Expression) : Bool :=
  e.operator?.isSome

/-- Whether an expression stands between brackets as an operand. -/
def isBracketedIn (e : Expression) (outer : Operator) : Bool :=
  match e.operator? with
  | some inner => inner.isBracketed outer
  | none => false

/-! ## Names -/

/-- The base of the name of a parameter that has nothing to be named after. -/
def plainBase : String := "param"

/-- What a parameter next to an expression is named after. -/
def base : Expression → String
  | .column _ name _ => name
  | .text sql _ => sql
  | .bareColumn name => name
  | .call function _ => function
  | .label _ name => name
  | .columnRef _ e => base e
  | _ => plainBase

/-- The column of a source that an expression is, perhaps under a label. -/
def column? : Expression → Option (String × String)
  | .column source name _ => some (source, name)
  | .label e _ => column? e
  | .columnRef _ e => column? e
  | _ => none

/-! ## Sources -/

mutual

/-- The sources of the columns of an expression, once for each column. -/
def sources : Expression → List String
  | .column source _ _ => [source]
  | .timeGrouped _ e => sources e
  | .dateInterval _ e _ => sources e
  | .cast e _ => sources e
  | .call _ arguments => sourcesOfAll arguments
  | .unary _ e => sources e
  | .isTrue _ e => sources e
  | .binary _ a b => sources a ++ sources b
  | .operations _ operands => sourcesOfAll operands
  | .member _ e _ _ => sources e
  | .between _ e low high => sources e ++ sources low ++ sources high
  | .cases branches => sourcesOfBranches branches
  | .label e _ => sources e
  | .columnRef _ e => sources e
  | .text _ _ | .bareColumn _ | .parameter _ _ | .null | .truth _ | .labelRef _ => []

/-- The sources of expressions one after another. -/
def sourcesOfAll : List Expression → List String
  | [] => []
  | e :: rest => sources e ++ sourcesOfAll rest

/-- The sources of the branches of a choice. -/
def sourcesOfBranches : Branches → List String
  | .done => []
  | .otherwise result => sources result
  | .when condition result rest => sources condition ++ sources result ++ sourcesOfBranches rest

end

mutual

/-- The expression with other sources for its columns. -/
def mapSources (f : String → String) : Expression → Expression
  | .column source name type => .column (f source) name type
  | .timeGrouped g e => .timeGrouped g (mapSources f e)
  | .dateInterval isEarlier e interval => .dateInterval isEarlier (mapSources f e) interval
  | .cast e type => .cast (mapSources f e) type
  | .call function arguments => .call function (mapSourcesOfAll f arguments)
  | .unary op e => .unary op (mapSources f e)
  | .isTrue isNegated e => .isTrue isNegated (mapSources f e)
  | .binary op a b => .binary op (mapSources f a) (mapSources f b)
  | .operations op operands => .operations op (mapSourcesOfAll f operands)
  | .member isExcluded e base values => .member isExcluded (mapSources f e) base values
  | .between isExcluded e low high =>
    .between isExcluded (mapSources f e) (mapSources f low) (mapSources f high)
  | .cases branches => .cases (mapSourcesOfBranches f branches)
  | .label e name => .label (mapSources f e) name
  | .columnRef i e => .columnRef i (mapSources f e)
  | .text sql type => .text sql type
  | .bareColumn name => .bareColumn name
  | .parameter base value => .parameter base value
  | .null => .null
  | .truth b => .truth b
  | .labelRef name => .labelRef name

/-- Expressions with other sources for their columns. -/
def mapSourcesOfAll (f : String → String) : List Expression → List Expression
  | [] => []
  | e :: rest => mapSources f e :: mapSourcesOfAll f rest

/-- Branches with other sources for their columns. -/
def mapSourcesOfBranches (f : String → String) : Branches → Branches
  | .done => .done
  | .otherwise result => .otherwise (mapSources f result)
  | .when condition result rest =>
    .when (mapSources f condition) (mapSources f result) (mapSourcesOfBranches f rest)

end

end Expression

end SqlDialect.Statement
