import SqlDialect.Text.Join
import SqlDialect.Text.Replace
import SqlDialect.Value.Shown

/-!
# Literals

Values written into a statement. A text stands between single quotes; quotes and backslashes inside
it are written twice, so that neither can end the text early, and so are percent signs, as
everywhere in a statement with parameters.
-/

namespace SqlDialect.Literal

/-- A character inside a literal text. -/
def charInText (c : Char) : List Char :=
  if c = '\'' || c = '\\' || c = '%' then [c, c] else [c]

/-- The inside of a literal text. -/
def textChars (s : List Char) : List Char :=
  s.flatMap charInText

/-- A text as a literal. -/
def ofText (s : String) : String :=
  Text.concat ["'", String.ofList (textChars s.toList), "'"]

/-- A truth value as a literal. -/
def ofBool (b : Bool) : String :=
  if b then "true" else "false"

mutual

/-- A value as a literal. The elements of a list stand between brackets. -/
def ofValue : Value → String
  | .null => "NULL"
  | .bool b => ofBool b
  | .int n => Text.ofInt n
  | .decimal d => d.text
  | .text s => ofText s
  | .granularity g => ofText g.name
  | .list elements => "(" ++ Text.joined ", " (ofValues elements) ++ ")"
  | .row elements => "(" ++ Text.joined ", " (ofValues elements) ++ ")"
  | .object fields => (Value.object fields).shown

/-- The values of a list as literals. -/
def ofValues : List Value → List String
  | [] => []
  | v :: rest => ofValue v :: ofValues rest

end

end SqlDialect.Literal
