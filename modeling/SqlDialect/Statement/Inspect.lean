import SqlDialect.ColumnType.Shown
import SqlDialect.Statement.Source

/-!
# Looking into expressions

What a caller can learn of an expression without finishing it: the kinds of its parts, the sources
of its columns, and a text that shows how it was made.
-/

namespace SqlDialect.Statement.Expression

/-! ## Kinds -/

/-- Levels of two parts beside each other. -/
def beside : List (List String) → List (List String) → List (List String)
  | [], ys => ys
  | xs, [] => xs
  | x :: xs, y :: ys => (x ++ y) :: beside xs ys

/-- Levels of a part, with brackets around it if it needs them. -/
def levelsIn (isBracketed : Bool) (levels : List (List String)) : List (List String) :=
  if isBracketed then ["grouping"] :: levels else levels

mutual

/-- The kinds of the parts of an expression, level by level. -/
def levels : Expression → List (List String)
  | .column _ _ _ | .text _ _ | .bareColumn _ => [["column"]]
  | .parameter _ _ => [["bindparam"]]
  | .null => [["null"]]
  | .truth b => [[if b then "true" else "false"]]
  | .timeGrouped _ e => ["time_grouped"] :: levels e
  | .dateInterval _ e _ => ["date_interval"] :: levels e
  | .cast e _ => ["cast"] :: levels e
  | .call _ arguments =>
    ["function"] :: ["grouping"] :: ["clauselist"] :: levelsOfAll none arguments
  | .unary op e => ["unary"] :: levelsIn (e.isBracketedIn op) (levels e)
  | .isTrue _ e => ["unary"] :: levels e
  | .binary op a b =>
    ["binary"] :: beside (levelsIn (a.isBracketedIn op) (levels a))
      (levelsIn (b.isBracketedIn op) (levels b))
  | .operations op operands =>
    [if op = .concat && operands.length = 2 then "binary" else "expression_clauselist"] ::
      levelsOfAll (some op) operands
  | .member _ e _ _ =>
    ["binary"] :: beside (levelsIn (e.isBracketedIn .isIn) (levels e)) [["bindparam"]]
  | .between _ e low high =>
    ["binary"] :: beside (levelsIn (e.isBracketedIn .between) (levels e))
      (["expression_clauselist"] :: beside (levels low) (levels high))
  | .cases branches => ["case"] :: levelsOfBranches branches
  | .label e _ => ["label"] :: levels e
  | .columnRef _ e => levels e
  | .labelRef _ => [["textual_label_reference"]]

/-- The kinds of the parts of expressions beside each other, as operands if there is an operator. -/
def levelsOfAll (outer : Option Operator) : List Expression → List (List String)
  | [] => []
  | e :: rest =>
    beside (levelsIn (outer.any e.isBracketedIn) (levels e)) (levelsOfAll outer rest)

/-- The kinds of the parts of the branches of a choice. -/
def levelsOfBranches : Branches → List (List String)
  | .done => []
  | .otherwise result => levels result
  | .when condition result rest =>
    beside (levelsIn condition.isOperation (levels condition))
      (beside (levels result) (levelsOfBranches rest))

end

/-- The kinds of an expression and its parts, those further outside first. -/
def kinds (e : Expression) : List String :=
  e.levels.flatten

/-! ## Sources -/

/-- The names of the sources of the columns of an expression, once for each column. -/
def sourceNames (env : Environment) (e : Expression) : List String :=
  e.sources.map env.basis

/-! ## How it was made -/

/-- A column as it is shown. -/
def shownColumn (env : Environment) (source name : String) (type : ColumnType) : String :=
  Text.concat ["Column(", Text.quoted name, ", ", type.shown, ", table=<", env.basis source, ">)"]

/-- The constructs for times and columns, as they are shown. Nothing else can be shown. -/
def shown? (env : Environment) : Expression → Option String
  | .column source name type => some (shownColumn env source name type)
  | .timeGrouped g e =>
    (shown? env e).map fun s =>
      Text.concat ["TimeGrouped(", Text.quoted g.name, ", ", s, ")"]
  | .dateInterval isEarlier e interval =>
    (shown? env e).map fun s =>
      Text.concat ["DateInterval(", s, if isEarlier then " - " else " + ", interval.quoted, ")"]
  | _ => none

end SqlDialect.Statement.Expression
