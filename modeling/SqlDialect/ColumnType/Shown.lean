import SqlDialect.ColumnType.Basic
import SqlDialect.Value.Shown

/-!
# Types as they are shown

A type as a reader sees it: its name and the parameters that are given, each under its own name.
-/

namespace SqlDialect.ColumnType

/-- A parameter that is shown if it is given. -/
def given (name : String) (v : Value) : List (String × Value) :=
  match v with
  | .null => []
  | v => [(name, v)]

/-- A mark that is shown if it is set. -/
def marked (name : String) (isSet : Bool) : List (String × Value) :=
  if isSet then [(name, .bool true)] else []

/-- The marks of a number. -/
def NumberMarks.parameters (m : NumberMarks) : List (String × Value) :=
  marked "unsigned" m.isUnsigned ++ marked "zerofill" m.hasZeros

/-- The parameters of a text. -/
def textParameters (o : Origin) (length : Value) (s : TextStyle) : List (String × Value) :=
  match o with
  | .doris | .mysql =>
    given "charset" s.charset ++ given "collation" s.collation ++ marked "ascii" s.isAscii ++
      marked "binary" s.isBinary ++ marked "unicode" s.isUnicode ++
      marked "national" s.isNational ++ given "length" length
  | .standard | .generic => given "length" length ++ given "collation" s.collation

/-- Whether the values of a type with a moving point are read as fractions. -/
def readsFractions (o : Origin) (word : FloatingWord) : Bool :=
  (o = .doris || o = .mysql) && word ≠ .float

/-- The parameters that a type shows. -/
def shownParameters : ColumnType → List (String × Value)
  | .integer _ _ width marks => given "display_width" width ++ marks.parameters
  | .exact _ _ precision scale marks =>
    marks.parameters ++ given "precision" precision ++ given "scale" scale
  | .state _ precision scale => given "precision" precision ++ given "scale" scale
  | .floating o word precision scale marks =>
    given "precision" precision ++ given "scale" scale ++
      marked "asdecimal" (readsFractions o word) ++ marks.parameters
  | .text o _ length style => textParameters o length style
  | .binary _ _ length => given "length" length
  | .moment _ _ fraction hasZone => marked "timezone" hasZone ++ given "fsp" fraction
  | .time _ fraction hasZone => marked "timezone" hasZone ++ given "fsp" fraction
  | .bit length => given "length" length
  | .year width => given "display_width" width
  | .boolean _ | .date _ | .json _ | .untyped => []

/-- A type with its parameters. -/
def shown (t : ColumnType) : String :=
  Text.concat [t.name, "(",
    Text.joined ", " (t.shownParameters.map fun entry => entry.1 ++ "=" ++ entry.2.quoted), ")"]

end SqlDialect.ColumnType
