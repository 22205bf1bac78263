import SqlDialect.Granularity.Bucket
import SqlDialect.Statement.Function
import SqlDialect.Statement.Typing

/-!
# Putting expressions together

The functions that callers build expressions with. What an operator is applied to may be an
expression or a plain value; a value becomes a parameter, which is named after the expression beside
it.

Some operations turn into others. A comparison with nothing asks whether something is `NULL`, adding
texts puts them one after another, constants vanish from conjunctions or decide them, and a negation
goes into the operator if there is one for the opposite.
-/

namespace SqlDialect.Statement

/-- What an operator is applied to. -/
inductive Operand where
  | expression (e : Expression)
  | value (v : Value)

namespace Operand

/-- The type of an operand. -/
def type : Operand → ColumnType
  | .expression e => e.type
  | .value v => ColumnType.ofValue v

/-- An operand beside an expression; a value is a parameter with the given base. -/
def beside (base : String) : Operand → Expression
  | .expression e => e
  | .value v => .parameter base v

/-- An operand on its own; nothing is a constant here. -/
def alone (base : String) : Operand → Expression
  | .expression e => e
  | .value .null => .null
  | .value v => .parameter base v

/-- The operand of a construct for times; a text is SQL as it is. -/
def asTime : Operand → Except Failure Expression
  | .expression e => .ok e
  | .value (.text s) => .ok (.text s .untyped)
  | .value _ => .error .notText

/-- The constant that an operand is. -/
def constant? : Operand → Option Expression
  | .expression .null | .value .null => some .null
  | .expression (.truth b) | .value (.bool b) => some (.truth b)
  | _ => none

/-- A member of a conjunction or disjunction; truth values are constants here. -/
def asCondition (o : Operand) : Expression :=
  o.constant?.getD (o.alone Expression.plainBase)

end Operand

namespace Expression

/-! ## Operations -/

/-- A comparison. -/
def compare (op : Operator) (x : Expression) (o : Operand) : Except Failure Expression :=
  match o.constant? with
  | none => .ok (.binary op x (o.beside x.base))
  | some (.truth b) =>
    if op = .equal || op = .unequal || op = .is || op = .isNot then .ok (.binary op x (.truth b))
    else .error .comparedConstant
  | some c =>
    if op = .equal || op = .is then .ok (.binary .is x c)
    else if op = .unequal || op = .isNot then .ok (.binary .isNot x c)
    else .error .comparedConstant

/-- The texts that an expression puts one after another. -/
def concatenated : Expression → List Expression
  | .operations .concat operands => operands
  | e => [e]

/-- A calculation, or texts put one after another. -/
def calculate (op : Operator) (left right : ColumnType) (x y : Expression) : Expression :=
  if op.isConcatenation left right then .operations .concat (x.concatenated ++ y.concatenated)
  else .binary op x y

/-- An operator applied to two operands. -/
def operate (op : Operator) (a b : Operand) : Except Failure Expression :=
  match a, b with
  -- A value on the left is named after the operand on the right, which a comparison puts first.
  | .value v, .expression y =>
    if op.isArithmetic then
      .ok (calculate op (ColumnType.ofValue v) y.type (.parameter y.base v) y)
    else y.compare op.swapped (.value v)
  | a, b =>
    let x := a.alone plainBase
    if op.isArithmetic then .ok (calculate op x.type b.type x (b.beside x.base))
    else x.compare op b

/-- Whether an expression is a certain constant. -/
def isTruth (b : Bool) : Expression → Bool
  | .truth c => b == c
  | _ => false

/-- A conjunction or disjunction. The constant that changes nothing vanishes, the other one decides,
and a condition without others stands alone. -/
def junction (op : Operator) (conditions : List Expression) : Expression :=
  let neutral := op = .and
  if conditions.any (isTruth !neutral) then .truth !neutral
  else
    match conditions.filter fun e => !isTruth neutral e with
    | [] => if conditions.isEmpty then .operations op [] else .truth neutral
    | [e] => e
    | rest => .operations op rest

/-- The negation of an expression by the operator alone. -/
def negatePlain (e : Expression) : Expression :=
  if e.isBoolean then .isTrue true e else .unary .not e

/-- The negation of an expression. -/
def negate : Expression → Expression
  | .binary op a b =>
    match op.negation? with
    | some opposite => .binary opposite a b
    | none => .unary .not (.binary op a b)
  | .member isExcluded e base values => .member (!isExcluded) e base values
  | .between isExcluded e low high => .between (!isExcluded) e low high
  | .operations op operands => .unary .not (.operations op operands)
  | .truth b => .truth !b
  | .isTrue isNegated e => .isTrue (!isNegated) e
  | e => negatePlain e

/-- Whether an operand is among some values. -/
def isIn (o : Operand) (values : List Value) : Expression :=
  let e := o.alone plainBase
  .member false e e.base values

/-- Whether an operand lies between two others. -/
def isBetween (o low high : Operand) : Expression :=
  let e := o.alone plainBase
  .between false e (low.beside e.base) (high.beside e.base)

/-- The branches of a choice. -/
def branches (otherwise : Option Expression) : List (Expression × Expression) → Branches
  | [] =>
    match otherwise with
    | none => .done
    | some e => .otherwise e
  | (condition, result) :: rest => .when condition result (branches otherwise rest)

/-- An ordering; a text is the name of a label. -/
def ordered (op : Operator) : Operand → Expression
  | .value (.text s) => .unary op (.labelRef s)
  | o => .unary op (o.alone plainBase)

/-- A call of a function. Counting nothing in particular counts the rows. -/
def callOf (called : String) (arguments : List Operand) : Expression :=
  let name := Function.nameOf called
  if name = "count" && arguments.isEmpty then .call name [.text "*" .untyped]
  else .call name (arguments.map (Operand.alone name))

/-! ## Times -/

/-- A time floored to a granularity. -/
def grouped (granularity : Value) (o : Operand) : Except Failure Expression :=
  match Granularity.parse granularity with
  | .error e => .error e
  | .ok g => o.asTime.map (.timeGrouped g)

/-- A time moved by an interval. -/
def moved (isEarlier : Bool) (o : Operand) (interval : Value) : Except Failure Expression :=
  o.asTime.map fun e => .dateInterval isEarlier e interval

/-! ## Laws -/

end Expression

end SqlDialect.Statement
