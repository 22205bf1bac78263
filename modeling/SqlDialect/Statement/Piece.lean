import SqlDialect.Text.Replace
import SqlDialect.Value.Basic

/-!
# Pieces of a statement

A statement is first put together from pieces: text that is final, and names and parameters whose
spelling is open. A generated name, such as `id_1`, holds a number that depends on all names before
it in the statement, so it is known only once the statement is complete. Until then a name tells
what it is for, and two names for the same thing are the same name.

`wrap` puts the pieces of an operand into the text of a rule in which a placeholder stands for the
operand.
-/

namespace SqlDialect.Statement

/-- A part of a statement: the subquery that it is in, if it is in one, and the way down to it, the
last step first. -/
structure Place where
  source : Option String
  path : List Nat
  deriving DecidableEq, Repr

/-- The part with a number inside a part. -/
def Place.child (p : Place) (i : Nat) : Place :=
  { p with path := i :: p.path }

/-- What a generated name is for. -/
inductive Mark where
  | place (p : Place)
  | column (source name : String)
  | source (key : String)
  deriving DecidableEq, Repr

/-- A part of a name. A number follows its base after an underscore. -/
inductive NamePart where
  | text (s : String)
  | numbered (base : String) (mark : Mark)
  deriving DecidableEq, Repr

/-- A name that a statement gives by itself. -/
abbrev Name := List NamePart

/-- What is called by a name. -/
inductive NameKind where
  | parameter | label | source
  deriving DecidableEq, Repr

/-- A piece of a statement. -/
inductive Piece where
  | text (s : String)
  /-- Nothing is written here, but a name takes its number here. -/
  | reserve (kind : NameKind) (name : Name)
  | name (kind : NameKind) (name : Name)
  /-- A parameter with a generated name. -/
  | parameter (name : Name) (value : Value)
  /-- A parameter with a given name. -/
  | fixed (name : String) (value : Value)
  /-- A parameter for the elements of a list, or for their absence. -/
  | elements (name : Name) (isExcluded : Bool) (values : List Value)

/-- The pieces of a statement, from the left to the right. -/
abbrev Pieces := List Piece

namespace Pieces

/-- Whether nothing can come of some pieces. -/
def isBlank (pieces : Pieces) : Bool :=
  pieces.all fun
    | .text s => s.isEmpty
    | .reserve _ _ => true
    | _ => false

/-- Pieces with others between each two. -/
def joined (separator : Pieces) : List Pieces → Pieces
  | [] => []
  | [p] => p
  | p :: rest => p ++ separator ++ joined separator rest

/-- Pieces between brackets, if these are needed. -/
def bracketedIf (needed : Bool) (pieces : Pieces) : Pieces :=
  if needed then .text "(" :: pieces ++ [.text ")"] else pieces

end Pieces

/-! ## Rules around operands -/

/-- What stands for the operand in a rule. -/
def placeholder : String := "__doris_operand__"

/-- The text of a rule with the pieces of the operand wherever the placeholder stands. Percent signs
of the rule are written twice; those of the operand have been dealt with already. -/
def wrap (rule : String) (operand : Pieces) : Pieces :=
  Pieces.joined operand ((Text.segments placeholder.toList (Text.doublePercents rule.toList)).map
    fun segment => [.text (String.ofList segment)])

end SqlDialect.Statement
