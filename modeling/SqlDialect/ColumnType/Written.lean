import SqlDialect.ColumnType.Basic
import SqlDialect.Failure
import SqlDialect.Text.Join

/-!
# Types as SQL

The text of a type in a column definition. This database has fewer types than its kin: texts of no
given length, and octets, are `STRING`, and integers and floats are written without parameters.

Main statement: `written_isOk_iff`, by which every type but the unknown one has a text.
-/

namespace SqlDialect.ColumnType

/-- Whether a parameter is given. -/
def isGiven : Value → Bool
  | .null => false
  | _ => true

/-- A word with parameters in brackets behind. -/
def withSizes (word : String) (sizes : List Value) : String :=
  match sizes with
  | [] => word
  | _ => Text.concat [word, "(", Text.joined ", " (sizes.map Value.shown), ")"]

/-- A word with one parameter, if that is given. -/
def withSize (word : String) (size : Value) : String :=
  withSizes word (if isGiven size then [size] else [])

/-- A precision and, behind it, a scale; a scale alone is not written. -/
def withPrecision (word : String) (precision scale : Value) : String :=
  withSizes word
    (if isGiven precision then (if isGiven scale then [precision, scale] else [precision]) else [])

/-- A precision and a scale, or neither. -/
def withBoth (word : String) (precision scale : Value) : String :=
  withSizes word (if isGiven precision && isGiven scale then [precision, scale] else [])

/-- The number of digits of a second, unless it is zero. -/
def withFraction (word : String) (fraction : Value) : String :=
  withSizes word (if fraction.isTrue then [fraction] else [])

/-- A text of a numeric type with its marks. -/
def NumberMarks.extend (marks : NumberMarks) (text : String) : String :=
  Text.concat [text, if marks.isUnsigned then " UNSIGNED" else "",
    if marks.hasZeros then " ZEROFILL" else ""]

namespace TextStyle

/-- The part of a style that says how characters are encoded. -/
def charsetPart (style : TextStyle) : List String :=
  if style.charset.isTrue then ["CHARACTER SET " ++ style.charset.shown]
  else if style.isAscii then ["ASCII"]
  else if style.isUnicode then ["UNICODE"]
  else []

/-- The part of a style that says how texts are compared. -/
def collationPart (style : TextStyle) : List String :=
  if style.collation.isTrue then ["COLLATE " ++ style.collation.shown]
  else if style.isBinary then ["BINARY"]
  else []

/-- A text of a text type with its style. A national type has its encoding by itself. -/
def extend (style : TextStyle) (text : String) : String :=
  Text.joined " "
    (if style.isNational then ["NATIONAL", text] ++ style.collationPart
    else [text] ++ style.charsetPart ++ style.collationPart)

end TextStyle

/-- The word of an integer type. -/
def IntegerWord.sql : IntegerWord → String
  | .standard => "INT"
  | word => word.spelling.upper

/-- The text of an integer type. Only the medium one shows its width and its marks. -/
def integerText (word : IntegerWord) (width : Value) (marks : NumberMarks) : String :=
  match word with
  | .medium => marks.extend (withSize word.sql width)
  | _ => word.sql

/-- The text of a type with a moving point. -/
def floatingText (word : FloatingWord) (precision scale : Value) (marks : NumberMarks) : String :=
  match word with
  | .float => "FLOAT"
  | _ => marks.extend (withBoth word.spelling.upper precision scale)

/-- The text of a text type. -/
def textText (word : TextWord) (length : Value) (style : TextStyle) : String :=
  match word with
  | .char => style.extend (withSize "CHAR" length)
  | .nchar => { style with isNational := true }.extend (withSize "CHAR" length)
  | .varchar | .nvarchar => if isGiven length then withSize "VARCHAR" length else "STRING"
  | .text | .ntext | .unbounded => "STRING"
  | .tiny | .medium | .long => style.extend word.spelling.upper

/-- The text of a type of octets. -/
def binaryText : BinaryWord → String
  | .fixed | .varying | .blob => "STRING"
  | word => word.spelling.upper

/-- The text of a type; of the unknown one there is none. -/
def text? : ColumnType → Option String
  | .boolean _ => some "BOOLEAN"
  | .integer _ word width marks => some (integerText word width marks)
  | .exact _ word precision scale marks =>
    some (marks.extend (withPrecision word.spelling.upper precision scale))
  | .state word _ _ => some word.name
  | .floating _ word precision scale marks => some (floatingText word precision scale marks)
  | .text _ word length style => some (textText word length style)
  | .binary _ word _ => some (binaryText word)
  | .date _ => some "DATE"
  | .moment _ _ fraction _ => some (withFraction "DATETIME" fraction)
  | .time _ fraction _ => some (withFraction "TIME" fraction)
  | .json _ => some "JSON"
  | .bit length => some (withSize "BIT" length)
  | .year width => some (withSize "YEAR" width)
  | .untyped => none

/-- The text of a type; `place` says where the type stands, for the failure. -/
def writtenAt (place : String) (t : ColumnType) : Except Failure String :=
  match t.text? with
  | some s => .ok s
  | none => .error (.untyped place)

/-- The text of a type. -/
def written (t : ColumnType) : Except Failure String :=
  t.writtenAt ""

/-- Every type but the unknown one has a text. -/
theorem text?_isSome (t : ColumnType) : t.text?.isSome = !t.isUntyped := by
  cases t <;> rfl

/-- Every type but the unknown one can be written. -/
theorem written_isOk_iff (t : ColumnType) :
    (∃ s, t.written = .ok s) ↔ t.isUntyped = false := by
  have h := text?_isSome t
  cases ht : t.text? <;> simp_all [written, writtenAt]

end SqlDialect.ColumnType
