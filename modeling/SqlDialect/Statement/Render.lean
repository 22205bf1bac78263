import SqlDialect.ColumnType.Adapted
import SqlDialect.Literal
import SqlDialect.Rules.Engine
import SqlDialect.Statement.Naming
import SqlDialect.Statement.Source

/-!
# Expressions in SQL

How an expression is written, as pieces. Flooring a time and moving it go through the rules of the
engine: the rule is applied to a placeholder, and the operand takes its place.

Main statements: `render_timeGrouped` and `render_dateInterval`, which say that the two constructs
are their rules around the operand.
-/

namespace SqlDialect.Statement

/-- What an expression is written in. -/
structure Scope where
  /-- Whether values are written in place. -/
  isLiteral : Bool
  /-- The query around the expression. -/
  home : Place
  environment : Environment

namespace Scope

/-- The place of a column of the query. -/
def columnPlace (s : Scope) (i : Nat) : Place :=
  (s.home.child 0).child i

/-- A value with a name for its parameter. -/
def parameter (s : Scope) (name : Name) (value : Value) : Pieces :=
  if s.isLiteral then [.text (Literal.ofValue value)] else [.parameter name value]

/-- The elements of a list as literals. -/
def literalElements (isExcluded : Bool) (values : List Value) : String :=
  if values.isEmpty then Text.concat ["(", emptyElements isExcluded, ")"]
  else Text.concat ["(", Text.joined ", " (values.map Literal.ofValue), ")"]

/-- The elements of a list with a name for their parameter. -/
def elements (s : Scope) (name : Name) (isExcluded : Bool) (values : List Value) : Pieces :=
  if s.isLiteral then [.text (literalElements isExcluded values)]
  else [.elements name isExcluded values]

end Scope

/-! ## Parts -/

/-- The rule that moves the placeholder by an interval. -/
def intervalRule (isEarlier : Bool) (interval : Value) : String :=
  if isEarlier then Rules.doris.subtractInterval (.text placeholder) interval
  else Rules.doris.addInterval (.text placeholder) interval

/-- A column behind the name of its source. -/
def columnPieces (s : Scope) (source name : String) : Except Failure Pieces :=
  (s.environment.qualifier source).bind fun qualifier =>
    (Identifier.written name).map fun column => qualifier ++ [.text ".", .text column]

/-- An operator before or behind its operand. -/
def unaryPieces (op : Operator) (operand : Pieces) : Pieces :=
  if op = .ascending || op = .descending then operand ++ [.text (" " ++ op.sql)]
  else .text (op.sql ++ " ") :: operand

/-- An operator between its operands. -/
def binaryPieces (op : Operator) (left right : Pieces) : Pieces :=
  left ++ .text (Text.concat [" ", op.sql, " "]) :: right

/-- An operation with any number of operands. -/
def operationPieces (op : Operator) (operands : List Pieces) : Pieces :=
  if op = .concat then .text "concat" :: Function.argumentList operands
  else
    Pieces.joined [.text (Text.concat [" ", op.sql, " "])] (operands.filter fun p => !p.isBlank)

/-- A value among the elements of a list, or not. -/
def memberPieces (isExcluded : Bool) (operand elements : Pieces) : Pieces :=
  Pieces.bracketedIf isExcluded
    (binaryPieces (if isExcluded then .notIn else .isIn) operand elements)

/-- A value between two others, or not. -/
def betweenPieces (isExcluded : Bool) (operand low high : Pieces) : Pieces :=
  binaryPieces (if isExcluded then .notBetween else .between) operand (binaryPieces .and low high)

/-- The cast of an operand; the operand alone if the cast has to be left out. -/
def castPieces (said : Option String) (isOperation : Bool) (operand : Pieces) : Pieces :=
  match said with
  | some s => .text "CAST(" :: operand ++ [.text (Text.concat [" AS ", s, ")"])]
  | none => Pieces.bracketedIf isOperation operand

namespace Expression

/-! ## Rendering -/

mutual

/-- An expression at a place, as pieces. -/
def render (s : Scope) (place : Place) : Expression → Outcome Pieces
  | .column source name _ => .silent (columnPieces s source name)
  | .text sql _ => .ok [.text (Text.escapePercents sql)]
  | .bareColumn name => .silent ((Identifier.written name).map fun w => [.text w])
  | .parameter base value => .ok (s.parameter (Name.ofParameter base (.place place)) value)
  | .null => .ok [.text "NULL"]
  | .truth b => .ok [.text (Literal.ofBool b)]
  | .timeGrouped g e =>
    (Rules.doris.timeGroupedColumn (.granularity g) (.text placeholder)).bind fun rule =>
      (render s (place.child 0) e).mapResult (wrap rule)
  | .dateInterval isEarlier e interval =>
    (render s (place.child 0) e).mapResult (wrap (intervalRule isEarlier interval))
  | .cast e type =>
    (Outcome.silent type.castText?).bind fun said =>
      (render s (place.child 0) e).mapResult (castPieces said e.isOperation)
  | .call function arguments =>
    (renderAll s place 0 none arguments).bind fun arguments =>
      .silent (Function.written function arguments)
  | .unary op e =>
    (render s (place.child 0) e).mapResult fun p =>
      unaryPieces op (p.bracketedIf (e.isBracketedIn op))
  | .isTrue isNegated e =>
    (render s (place.child 0) e).mapResult fun p => if isNegated then unaryPieces .not p else p
  | .binary op a b =>
    (render s (place.child 0) a).bind fun left =>
      (render s (place.child 1) b).mapResult fun right =>
        binaryPieces op (left.bracketedIf (a.isBracketedIn op))
          (right.bracketedIf (b.isBracketedIn op))
  | .operations op operands =>
    (renderAll s place 0 (some op) operands).mapResult (operationPieces op)
  | .member isExcluded e base values =>
    (render s (place.child 0) e).mapResult fun p =>
      memberPieces isExcluded (p.bracketedIf (e.isBracketedIn .isIn))
        (s.elements (Name.ofParameter base (.place place)) isExcluded values)
  | .between isExcluded e low high =>
    (render s (place.child 0) e).bind fun p =>
      (render s (place.child 1) low).bind fun low =>
        (render s (place.child 2) high).mapResult fun high =>
          betweenPieces isExcluded (p.bracketedIf (e.isBracketedIn .between)) low high
  | .cases branches =>
    (renderBranches s place 0 branches).mapResult fun p => .text "CASE " :: p ++ [.text "END"]
  | .label e _ => render s (place.child 0) e
  | .columnRef i e => render s (s.columnPlace i) e
  | .labelRef name => .fail (.unresolvedLabel name)

/-- Expressions at the parts of a place from a number on, as operands of an operator if there is
one. -/
def renderAll (s : Scope) (place : Place) (i : Nat) (outer : Option Operator) :
    List Expression → Outcome (List Pieces)
  | [] => .ok []
  | e :: rest =>
    (render s (place.child i) e).bind fun p =>
      (renderAll s place (i + 1) outer rest).mapResult fun more =>
        p.bracketedIf (outer.any e.isBracketedIn) :: more

/-- The branches of a choice, each followed by a blank. -/
def renderBranches (s : Scope) (place : Place) (i : Nat) : Branches → Outcome Pieces
  | .done => .ok []
  | .otherwise result =>
    (render s (place.child i) result).mapResult fun p => .text "ELSE " :: p ++ [.text " "]
  | .when condition result rest =>
    (render s (place.child i) condition).bind fun c =>
      (render s (place.child (i + 1)) result).bind fun r =>
        (renderBranches s place (i + 2) rest).mapResult fun more =>
          .text "WHEN " :: c.bracketedIf condition.isOperation ++ .text " THEN " :: r ++
            .text " " :: more

end

/-! ## Laws -/

/-- Flooring a time is its rule around the operand. -/
theorem render_timeGrouped (s : Scope) (place : Place) (g : Granularity) (e : Expression) :
    (timeGrouped g e).render s place =
      (Rules.doris.timeGroupedColumn (.granularity g) (.text placeholder)).bind fun rule =>
        (e.render s (place.child 0)).mapResult (wrap rule) := by
  simp only [render]

/-- Moving a time is its rule around the operand. -/
theorem render_dateInterval (s : Scope) (place : Place) (isEarlier : Bool) (e : Expression)
    (interval : Value) :
    (dateInterval isEarlier e interval).render s place =
      (e.render s (place.child 0)).mapResult (wrap (intervalRule isEarlier interval)) := by
  simp only [render]

end Expression

end SqlDialect.Statement
