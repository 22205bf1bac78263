import SqlDialect.Granularity.Basic
import SqlDialect.Value.Decimal

/-!
# Values

What a caller may hand over as an argument: the values of a data format, and a granularity. The
rules that build SQL ask little of their arguments. Most write them into the text, whatever they
are; some need a text, some need something with elements or with a length. The functions here answer
these questions, each with `none` where a value has no answer.

`Value.row` is a sequence of fixed length, such as the parameters of a statement; it differs from
`Value.list` in how it is shown.
-/

namespace SqlDialect

/-- An argument. -/
inductive Value where
  | null
  | bool (b : Bool)
  | int (n : Int)
  | decimal (d : Decimal)
  | text (s : String)
  | list (elements : List Value)
  | row (elements : List Value)
  | object (fields : List (String × Value))
  | granularity (g : Granularity)
  deriving Inhabited

namespace Value

/-- The text that a value is, if it is one. A granularity is the text of its name. -/
def text? : Value → Option String
  | .text s => some s
  | .granularity g => some g.name
  | _ => none

/-- Whether a value counts as true: everything but nothing, zero and what is empty. -/
def isTrue : Value → Bool
  | .null => false
  | .bool b => b
  | .int n => n != 0
  | .decimal d => d.mantissa != 0
  | .text s => !s.isEmpty
  | .list elements => !elements.isEmpty
  | .row elements => !elements.isEmpty
  | .object fields => !fields.isEmpty
  | .granularity _ => true

/-- The elements of a value: the characters of a text, the keys of an object. -/
def elements? : Value → Option (List Value)
  | .text s => some (s.toList.map fun c => .text (String.ofList [c]))
  | .granularity g => some (g.name.toList.map fun c => .text (String.ofList [c]))
  | .list elements => some elements
  | .row elements => some elements
  | .object fields => some (fields.map fun f => .text f.1)
  | _ => none

/-- The number of elements of a value; for a text that is its number of code points. -/
def length? (v : Value) : Option Nat :=
  v.elements?.map List.length

/-- The truth values as numbers. -/
def ofBool (b : Bool) : Int :=
  if b then 1 else 0

/-- The number that a value is, a truth value being zero or one. -/
def number? : Value → Option Decimal
  | .bool b => some ⟨ofBool b, 0⟩
  | .int n => some ⟨n, 0⟩
  | .decimal d => some d
  | _ => none

/-- Whether two numbers are given and are the same. -/
def sameNumber (a b : Option Decimal) : Bool :=
  match a, b with
  | some d, some e => d.same e
  | _, _ => false

/-- The value of a key in the fields of an object. -/
def field? (fields : List (String × Value)) (key : String) : Option Value :=
  (fields.find? fun f => f.1 == key).map (·.2)

mutual

/-- Whether two values are equal. Numbers are compared as numbers, whatever their kind, and objects
without regard to the order of their fields. -/
def same : Value → Value → Bool
  | .null, .null => true
  | .text s, w => w.text? == some s
  | .granularity g, w => w.text? == some g.name
  | .list xs, .list ys => sameAll xs ys
  | .row xs, .row ys => sameAll xs ys
  | .object fs, .object gs => fs.length == gs.length && sameFields fs gs
  | v, w => sameNumber v.number? w.number?

/-- Whether two lists of values are equal. -/
def sameAll : List Value → List Value → Bool
  | [], [] => true
  | x :: xs, y :: ys => same x y && sameAll xs ys
  | _, _ => false

/-- Whether every field is among those of another object with an equal value. -/
def sameFields : List (String × Value) → List (String × Value) → Bool
  | [], _ => true
  | (key, v) :: rest, gs =>
    match field? gs key with
    | some w => same v w && sameFields rest gs
    | none => false

end

@[simp] theorem text?_text (s : String) : (Value.text s).text? = some s := rfl

theorem length?_text (s : String) : (Value.text s).length? = some s.toList.length := by
  simp [length?, elements?]

end Value

end SqlDialect
