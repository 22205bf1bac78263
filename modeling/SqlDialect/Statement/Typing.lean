import SqlDialect.Statement.Expression

/-!
# Types of expressions

The type of a value, and from there the types of expressions. An expression of which nothing is
known is untyped.
-/

namespace SqlDialect

namespace ColumnType

/-- Truth values that no database owns. -/
def genericBoolean : ColumnType := .boolean .generic

/-- Whole numbers that no database owns. -/
def genericInteger : ColumnType := .integer .generic .standard .null {}

/-- Large whole numbers that no database owns. -/
def genericBig : ColumnType := .integer .generic .big .null {}

/-- Fractions of a fixed number of places that no database owns. -/
def genericExact : ColumnType := .exact .generic .numeric .null .null {}

/-- Fractions of a moving point that no database owns. -/
def genericFloat : ColumnType := .floating .generic .float .null .null {}

/-- Texts that no database owns. -/
def genericText : ColumnType := .text .generic .varchar .null {}

/-- Texts of any characters that no database owns. -/
def genericUnicode : ColumnType := .text .generic .nvarchar .null {}

/-- Moments that no database owns. -/
def genericMoment : ColumnType := .moment .generic false .null false

/-- Moments as this database has them. -/
def dorisMoment : ColumnType := .moment .doris false .null false

/-- Whether a whole number fits in 31 bits and a sign. -/
def isSmall (n : Int) : Bool :=
  n.natAbs < Nat.pow 2 31

/-- The type of a text. -/
def ofText (s : String) : ColumnType :=
  if s.toList.all fun c => c.toNat < 128 then genericText else genericUnicode

/-- The type of a value. -/
def ofValue : Value → ColumnType
  | .bool _ => genericBoolean
  | .int n => if isSmall n then genericInteger else genericBig
  | .decimal _ => genericFloat
  | .text s => ofText s
  | .granularity g => ofText g.name
  | .null | .list _ | .row _ | .object _ => .untyped

/-- Whether values of a type can be put one after another. -/
def isConcatenable : ColumnType → Bool
  | .text _ _ _ _ => true
  | .json _ => true
  | _ => false

end ColumnType

namespace Statement

open ColumnType

namespace Operator

/-- Whether the operands can be exchanged. -/
def isCommutative : Operator → Bool
  | .add | .multiply | .equal | .unequal | .is => true
  | _ => false

/-- Whether an operation puts texts one after another although its operator says that it adds. -/
def isConcatenation (op : Operator) (left right : ColumnType) : Bool :=
  op = .add && if left.isUntyped then right.isConcatenable
    else left.isConcatenable && (right.isConcatenable || right.isUntyped)

/-- The type of a calculation with operands of two types. -/
def resultType (op : Operator) (left right : ColumnType) : ColumnType :=
  if left.isUntyped && op.isCommutative then right
  else if op = .divide && left.isInteger && right.isInteger then genericExact
  else left

end Operator

namespace Function

/-- The type of a function that always has the same one. -/
def type? (name : String) : Option ColumnType :=
  if name = "count" || name = "char_length" || name = "rank" || name = "dense_rank" then
    some genericInteger
  else if name = "percent_rank" || name = "cume_dist" then some genericExact
  else if name = "now" || name = "current_timestamp" || name = "localtimestamp" ||
      name = "localtime" || name = "sysdate" then some genericMoment
  else if name = "current_date" then some (.date .generic)
  else if name = "current_time" then some (.time .generic .null false)
  else if name = "concat" || name = "current_user" || name = "session_user" || name = "user" then
    some genericText
  else none

/-- Whether a function has the type of its arguments. -/
def keepsType (name : String) : Bool :=
  name = "coalesce" || name = "max" || name = "min" || name = "sum"

end Function

namespace Expression

mutual

/-- The type of an expression. -/
def type : Expression → ColumnType
  | .column _ _ t => t
  | .text _ t => t
  | .parameter _ value => ofValue value
  | .truth _ => genericBoolean
  | .timeGrouped _ _ => dorisMoment
  | .dateInterval _ _ _ => dorisMoment
  | .cast _ t => t
  | .call function arguments =>
    (Function.type? function).getD
      (if Function.keepsType function then firstType arguments else .untyped)
  | .unary op e => if op = .not then .untyped else type e
  | .isTrue _ _ => genericBoolean
  | .binary op a b => if op.isArithmetic then op.resultType (type a) (type b) else genericBoolean
  | .operations op operands => if op = .concat then firstType operands else genericBoolean
  | .member _ _ _ _ => genericBoolean
  | .between _ _ _ _ => genericBoolean
  | .cases branches => lastType .untyped branches
  | .label e _ => type e
  | .columnRef _ e => type e
  | .bareColumn _ | .null | .labelRef _ => .untyped

/-- The first type of some expressions of which something is known. -/
def firstType : List Expression → ColumnType
  | [] => .untyped
  | e :: rest => if (type e).isUntyped then firstType rest else type e

/-- The type of the last result under a condition. -/
def lastType (found : ColumnType) : Branches → ColumnType
  | .done => found
  | .otherwise _ => found
  | .when _ result rest => lastType (type result) rest

end

/-- Whether an expression is a truth value. -/
def isBoolean (e : Expression) : Bool :=
  e.type.isBoolean

end Expression

end Statement

end SqlDialect
