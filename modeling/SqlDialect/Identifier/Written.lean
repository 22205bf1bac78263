import SqlDialect.Identifier.Quote
import SqlDialect.Identifier.Reserved
import SqlDialect.Text.Join

/-!
# Identifiers as they are written in statements

Inside a statement a name is quoted only if it needs it: if it is a reserved word, has capital
letters, starts with a digit or a dollar sign, or has other characters than small letters, digits,
underscores and dollar signs. Percent signs are written twice, as everywhere in a statement with
parameters.
-/

namespace SqlDialect.Identifier

/-- Whether a character may stand in a name without quotes. Besides the ASCII ones these are the two
small letters whose capital forms are ASCII. -/
def isPlainChar (c : Char) : Bool :=
  c.isLower || c.isDigit || c = '_' || c = '$' || c = '\u0131' || c = '\u017F'

/-- Whether a character may stand in the name of a function without quotes: what may stand in a name
without quotes, and the capital forms of that. -/
def isFunctionChar (c : Char) : Bool :=
  isPlainChar c || c.isUpper || c = '\u0130' || c = '\u212A'

/-- The characters without one line break at the end. -/
def dropFinalBreak (s : List Char) : List Char :=
  if s.getLast? = some '\n' then s.dropLast else s

/-- Whether the characters of a name need no quotes. A line break at the very end passes. -/
def isPlain (name : List Char) : Bool :=
  dropFinalBreak name ≠ [] && (dropFinalBreak name).all isPlainChar

/-- Whether a first character asks for quotes. -/
def isIllegalStart (c : Char) : Bool :=
  c.isDigit || c = '$'

/-- Whether a name is written between quotes. A name without a first character has no answer. -/
def needsQuotes (name : String) : Except Failure Bool :=
  match name.toList with
  | [] => .error .emptyName
  | c :: rest => .ok (isIllegalStart c || isReserved name || !isPlain (c :: rest))

/-- A name between quotes, with percent signs written twice. -/
def writtenQuoted (name : String) : String :=
  Text.escapePercents (quoteWithBackticks name)

/-- A name as it is written in a statement. -/
def written (name : String) : Except Failure String :=
  (needsQuotes name).map fun needed => if needed then writtenQuoted name else name

/-- The name of a table as it is written, with its schema in front if it has one. -/
def writtenIn (schema : Option String) (name : String) : Except Failure String :=
  (written name).bind fun name =>
    match schema with
    | none => .ok name
    | some schema =>
      if schema.isEmpty then .ok name
      else (written schema).map fun schema => Text.concat [schema, ".", name]

end SqlDialect.Identifier
