import SqlDialect.Statement.Insert
import SqlDialect.Statement.Select

/-!
# Finished statements

From a statement, or an expression alone, to its text and its parameters: first the pieces are put
together, then the names in them get their numbers.
-/

namespace SqlDialect

namespace Statement

/-- How a statement is finished. -/
structure Style where
  /-- Whether values are written in place. -/
  isLiteral : Bool := false
  /-- Whether each element of a list has a parameter of its own. -/
  isExpanded : Bool := false

end Statement

open Statement in
/-- What can be finished. -/
inductive Statement where
  | select (q : Select)
  | insert (i : Insert)
  | expression (e : Expression)

namespace Statement

/-- The statement with one source in place of another. -/
def replaceSource (old new : String) : Statement → Statement
  | .select q => .select (q.replaceSource old new)
  | .insert i => .insert i
  | .expression e => .expression (e.mapSources fun key => if key = old then new else key)

/-- The statement with a source that is another name in place of what it is a name for. -/
def adapted (env : Environment) (key : String) (statement : Statement) : Statement :=
  match env.find? key with
  | some (.alias inner _, _) => statement.replaceSource inner key
  | _ => statement

/-- The pieces of a statement. -/
def render (env : Environment) (isLiteral : Bool) (statement : Statement) : Outcome Pieces :=
  let scope : Scope := ⟨isLiteral, ⟨none, []⟩, env⟩
  match statement with
  | .select q => q.render scope false (originPieces isLiteral env true)
  | .insert i => i.render scope
  -- Beside the columns of a query, so that no part of it has the place of one.
  | .expression e => e.render scope (scope.home.child 1)

/-- A statement with its parameters. -/
def compile (env : Environment) (style : Style) (statement : Statement) : Outcome Compiled :=
  (statement.render env style.isLiteral).bind fun pieces =>
    .silent (pieces.finish style.isExpanded)

end Statement

end SqlDialect
