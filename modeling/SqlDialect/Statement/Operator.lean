/-!
# Operators

The operators between the parts of an expression: how each is written, how tightly it binds, and
what it becomes when the expression around it is negated or read from the other side.

An operand that is an operation itself stands between brackets if its operator binds no tighter than
the one around it. Operators that can be regrouped without a change, such as `+`, do without
brackets inside themselves. What is calculated always stands between brackets if it is negated, as
it is no truth value.
-/

namespace SqlDialect.Statement

/-- An operator. -/
inductive Operator where
  | multiply | divide | modulo | add | subtract | concat
  | equal | unequal | less | lessEqual | greater | greaterEqual
  | like | unlike | is | isNot | isIn | notIn | between | notBetween
  | distinct | not | and | or | ascending | descending
  deriving DecidableEq, Repr

namespace Operator

/-- How tightly an operator binds. -/
def precedence : Operator → Nat
  | .multiply | .divide | .modulo => 8
  | .add | .subtract => 7
  | .concat => 6
  | .equal | .unequal | .less | .lessEqual | .greater | .greaterEqual => 5
  | .like | .unlike | .is | .isNot | .isIn | .notIn | .between | .notBetween => 5
  | .distinct | .not => 5
  | .and | .ascending | .descending => 3
  | .or => 2

/-- Whether operands may be regrouped without a change. -/
def isAssociative : Operator → Bool
  | .add | .multiply | .concat | .and | .or => true
  | _ => false

/-- Whether an operator calculates. -/
def isArithmetic : Operator → Bool
  | .multiply | .divide | .modulo | .add | .subtract => true
  | _ => false

/-- Whether an operation with the operator `inner` needs brackets as an operand of `outer`. -/
def isBracketed (inner outer : Operator) : Bool :=
  outer = .not && (inner.isArithmetic || inner = .concat) ||
    !(inner = outer && inner.isAssociative) && inner.precedence ≤ outer.precedence

/-- How an operator is written. A percent sign is written twice, as everywhere in a statement. -/
def sql : Operator → String
  | .multiply => "*"
  | .divide => "/"
  | .modulo => "%%"
  | .add => "+"
  | .subtract => "-"
  | .concat => "||"
  | .equal => "="
  | .unequal => "!="
  | .less => "<"
  | .lessEqual => "<="
  | .greater => ">"
  | .greaterEqual => ">="
  | .like => "LIKE"
  | .unlike => "NOT LIKE"
  | .is => "IS"
  | .isNot => "IS NOT"
  | .isIn => "IN"
  | .notIn => "NOT IN"
  | .between => "BETWEEN"
  | .notBetween => "NOT BETWEEN"
  | .distinct => "DISTINCT"
  | .not => "NOT"
  | .and => "AND"
  | .or => "OR"
  | .ascending => "ASC"
  | .descending => "DESC"

/-- The operator for the opposite, if there is one. -/
def negation? : Operator → Option Operator
  | .equal => some .unequal
  | .unequal => some .equal
  | .less => some .greaterEqual
  | .greaterEqual => some .less
  | .greater => some .lessEqual
  | .lessEqual => some .greater
  | .like => some .unlike
  | .unlike => some .like
  | .is => some .isNot
  | .isNot => some .is
  | .isIn => some .notIn
  | .notIn => some .isIn
  | .between => some .notBetween
  | .notBetween => some .between
  | _ => none

/-- The operator with its operands exchanged. -/
def swapped : Operator → Operator
  | .less => .greater
  | .greater => .less
  | .lessEqual => .greaterEqual
  | .greaterEqual => .lessEqual
  | op => op

/-- The operators that a caller may name, by their symbols. -/
def symbols : List (String × Operator) :=
  [("+", .add), ("-", .subtract), ("*", .multiply), ("/", .divide), ("%", .modulo), ("=", .equal),
   ("!=", .unequal), ("<", .less), ("<=", .lessEqual), (">", .greater), (">=", .greaterEqual),
   ("like", .like), ("is", .is), ("is not", .isNot)]

/-- The operator of a symbol. -/
def ofSymbol? (symbol : String) : Option Operator :=
  symbols.lookup symbol

end Operator

end SqlDialect.Statement
