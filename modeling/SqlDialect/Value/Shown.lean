import SqlDialect.Value.Basic
import SqlDialect.Text.Quoted
import SqlDialect.Text.Join

/-!
# Values as text

`Value.shown` is the text of a value inside a longer text, such as a piece of SQL or a message: a
text stands for itself. `Value.quoted` is the form that tells values apart: texts are in quotes. A
value inside a list or an object is always in the second form.
-/

namespace SqlDialect.Value

/-- The text of a truth value. -/
def boolText (b : Bool) : String :=
  if b then "True" else "False"

/-- A granularity as it is written into a text. -/
def granularityText (g : Granularity) : String :=
  "Granularity." ++ g.label

/-- The texts with commas between them. -/
def commaJoin (parts : List String) : String :=
  Text.joined ", " parts

/-- A sequence of fixed length in round brackets; a single element keeps its comma. -/
def bracketed (parts : List String) : String :=
  match parts with
  | [single] => "(" ++ single ++ ",)"
  | _ => "(" ++ commaJoin parts ++ ")"

mutual

/-- A value in the form that tells texts from other values. -/
def quoted : Value → String
  | .null => "None"
  | .bool b => boolText b
  | .int n => Text.ofInt n
  | .decimal d => d.text
  | .text s => Text.quoted s
  | .list elements => "[" ++ commaJoin (quotedAll elements) ++ "]"
  | .row elements => bracketed (quotedAll elements)
  | .object fields => "\x7b" ++ commaJoin (quotedFields fields) ++ "\x7d"
  | .granularity g => "<" ++ granularityText g ++ ": " ++ Text.quoted g.name ++ ">"

/-- The quoted forms of the elements of a list. -/
def quotedAll : List Value → List String
  | [] => []
  | v :: rest => quoted v :: quotedAll rest

/-- The fields of an object, each as its key and its value. -/
def quotedFields : List (String × Value) → List String
  | [] => []
  | (key, v) :: rest => (Text.quoted key ++ ": " ++ quoted v) :: quotedFields rest

end

/-- A value inside a longer text. -/
def shown : Value → String
  | .text s => s
  | .granularity g => granularityText g
  | v => v.quoted

@[simp] theorem shown_text (s : String) : (Value.text s).shown = s := rfl

end SqlDialect.Value
