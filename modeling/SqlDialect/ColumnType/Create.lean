import SqlDialect.Arguments
import SqlDialect.ColumnType.Basic

/-!
# Creating types

A type is created by its full name, such as `doris.VARCHAR`, with values for its parameters. All
parameters may be left out; some can only be given by name. Besides those that matter here, types
have parameters on how values are handed to a program, which are accepted and forgotten. Only the
names in `classes` create anything.
-/

namespace SqlDialect.ColumnType

/-- The parameters of a type: those that may be given by position, and those only by name. -/
structure Signature where
  positional : List String
  keyword : List String

/-- The values of the parameters. -/
abbrev Parameters := List (String × Value)

/-- The value of a parameter. -/
def Parameters.get (parameters : Parameters) (name : String) : Value :=
  (Entries.get? name parameters).getD .null

/-- Whether a parameter that is a mark is set. -/
def Parameters.isSet (parameters : Parameters) (name : String) : Bool :=
  (parameters.get name).isTrue

/-- The values of the parameters that a call gives. -/
def Signature.bind (s : Signature) (given : Arguments) : Except Failure Parameters :=
  let optional (name : String) : Parameter := Arguments.optional name .null
  (Arguments.bind (s.positional.map optional) (s.keyword.map optional) given).map
    (s.positional ++ s.keyword).zip

/-! ## Signatures -/

/-- The parameters of a type without any. -/
def plain : Signature := ⟨[], []⟩

/-- The parameters of truth values. -/
def booleanSignature : Signature :=
  ⟨["create_constraint", "name", "_create_events", "_adapted_from"], []⟩

/-- The parameters of integers with a width. -/
def widthSignature : Signature := ⟨["display_width"], ["unsigned", "zerofill"]⟩

/-- The parameters of fractions of a fixed number of places, and of states. -/
def standardExactSignature : Signature :=
  ⟨["precision", "scale", "decimal_return_scale", "asdecimal"], []⟩

/-- The parameters of fractions with marks. -/
def markedSignature : Signature :=
  ⟨["precision", "scale", "asdecimal"], ["unsigned", "zerofill", "decimal_return_scale"]⟩

/-- The parameters of fractions of a moving point. -/
def standardFloatingSignature : Signature :=
  ⟨["precision", "asdecimal", "decimal_return_scale"], []⟩

/-- The parameters of texts. -/
def standardTextSignature : Signature := ⟨["length", "collation"], []⟩

/-- The parameters of the style of a text. -/
def styleNames : List String :=
  ["charset", "collation", "collate", "ascii", "binary", "unicode", "national"]

/-- The parameters of texts with a style. -/
def styledSignature : Signature := ⟨["length"], styleNames⟩

/-- The parameters of texts whose length is in their name. -/
def namedLengthSignature : Signature := ⟨[], "length" :: styleNames⟩

/-- The parameter of octets. -/
def lengthSignature : Signature := ⟨["length"], []⟩

/-- The parameter of standard dates and times. -/
def zoneSignature : Signature := ⟨["timezone"], []⟩

/-- The parameters of dates and times with fractions of a second. -/
def fractionSignature : Signature := ⟨["timezone", "fsp"], []⟩

/-- The parameter of documents. -/
def jsonSignature : Signature := ⟨["none_as_null"], []⟩

/-! ## Makers -/

/-- Makes a type from the values of its parameters. -/
structure Maker where
  signature : Signature
  make : Parameters → Except Failure ColumnType

/-- Makes a type that nothing can be wrong with. -/
def Maker.simple (signature : Signature) (make : Parameters → ColumnType) : Maker :=
  ⟨signature, fun p => .ok (make p)⟩

/-- The marks of a numeric type. -/
def marksOf (p : Parameters) : NumberMarks :=
  ⟨p.isSet "unsigned", p.isSet "zerofill"⟩

/-- The style of a text type. A collation may go by either of two names; the shorter one wins. -/
def styleOf (p : Parameters) : TextStyle where
  charset := p.get "charset"
  collation := if Value.isTrue (p.get "collate") then p.get "collate" else p.get "collation"
  isAscii := p.isSet "ascii"
  isUnicode := p.isSet "unicode"
  isBinary := p.isSet "binary"
  isNational := p.isSet "national"

/-- Makes truth values. -/
def booleanMaker (o : Origin) : Maker :=
  .simple booleanSignature fun _ => .boolean o

/-- Makes integers without parameters. -/
def integerMaker (o : Origin) (word : IntegerWord) : Maker :=
  .simple plain fun _ => .integer o word .null {}

/-- Makes integers with a width. -/
def widthMaker (o : Origin) (word : IntegerWord) : Maker :=
  .simple widthSignature fun p => .integer o word (p.get "display_width") (marksOf p)

/-- Makes fractions of a fixed number of places. -/
def exactMaker (o : Origin) (word : ExactWord) : Maker :=
  .simple standardExactSignature fun p => .exact o word (p.get "precision") (p.get "scale") {}

/-- Makes fractions of a fixed number of places with marks. -/
def markedMaker (o : Origin) (word : ExactWord) : Maker :=
  .simple markedSignature fun p => .exact o word (p.get "precision") (p.get "scale") (marksOf p)

/-- Makes states of aggregations. -/
def stateMaker (word : StateWord) : Maker :=
  .simple standardExactSignature fun p => .state word (p.get "precision") (p.get "scale")

/-- Makes fractions of a moving point. -/
def floatingMaker (o : Origin) (word : FloatingWord) : Maker :=
  .simple standardFloatingSignature fun p => .floating o word (p.get "precision") .null {}

/-- Whether a word asks for both a precision and a scale if there is one of them. -/
def FloatingWord.needsBoth : FloatingWord → Bool
  | .float => false
  | .double | .real => true

/-- Whether one of two parameters is given without the other. -/
def isOneGiven (a b : Value) : Bool :=
  match a, b with
  | .null, .null => false
  | .null, _ | _, .null => true
  | _, _ => false

/-- A fraction of a moving point with marks, if its parameters go together. -/
def checkedFloating (o : Origin) (word : FloatingWord) (precision scale : Value)
    (marks : NumberMarks) : Except Failure ColumnType :=
  if word.needsBoth && isOneGiven precision scale then .error .scaleMissing
  else .ok (.floating o word precision scale marks)

/-- Makes fractions of a moving point with marks. -/
def checkedFloatingMaker (o : Origin) (word : FloatingWord) : Maker :=
  ⟨markedSignature, fun p => checkedFloating o word (p.get "precision") (p.get "scale") (marksOf p)⟩

/-- Makes texts. -/
def textMaker (o : Origin) (word : TextWord) : Maker :=
  .simple standardTextSignature fun p =>
    .text o word (p.get "length") { collation := p.get "collation" }

/-- Makes texts with a style. -/
def styledMaker (o : Origin) (word : TextWord) : Maker :=
  .simple styledSignature fun p => .text o word (p.get "length") (styleOf p)

/-- Makes national texts with a style. -/
def nationalMaker (o : Origin) (word : TextWord) : Maker :=
  .simple styledSignature fun p =>
    .text o word (p.get "length") { styleOf p with isNational := true }

/-- Makes texts whose length is in their name. -/
def namedLengthMaker (o : Origin) (word : TextWord) : Maker :=
  .simple namedLengthSignature fun p => .text o word (p.get "length") (styleOf p)

/-- Makes octets. -/
def binaryMaker (o : Origin) (word : BinaryWord) : Maker :=
  .simple lengthSignature fun p => .binary o word (p.get "length")

/-- Makes dates. -/
def dateMaker (o : Origin) : Maker :=
  .simple plain fun _ => .date o

/-- Makes dates with times. -/
def momentMaker (o : Origin) (isTimestamp : Bool) : Maker :=
  .simple zoneSignature fun p => .moment o isTimestamp .null (p.isSet "timezone")

/-- Makes dates with times that may have fractions of a second. -/
def fractionMaker (o : Origin) (isTimestamp : Bool) : Maker :=
  .simple fractionSignature fun p => .moment o isTimestamp (p.get "fsp") (p.isSet "timezone")

/-- Makes times. -/
def timeMaker (o : Origin) : Maker :=
  .simple zoneSignature fun p => .time o .null (p.isSet "timezone")

/-- Makes documents. -/
def jsonMaker (o : Origin) : Maker :=
  .simple jsonSignature fun _ => .json o

/-! ## Classes -/

/-- The types of this database. -/
def dorisClasses : List (String × Maker) :=
  [("doris.BOOLEAN", booleanMaker .doris), ("doris.TINYINT", widthMaker .doris .tiny),
   ("doris.SMALLINT", widthMaker .doris .small), ("doris.INTEGER", widthMaker .doris .standard),
   ("doris.BIGINT", widthMaker .doris .big), ("doris.LARGEINT", integerMaker .doris .large),
   ("doris.DECIMAL", markedMaker .doris .decimal),
   ("doris.DOUBLE", checkedFloatingMaker .doris .double),
   ("doris.FLOAT", checkedFloatingMaker .doris .float), ("doris.CHAR", styledMaker .doris .char),
   ("doris.VARCHAR", styledMaker .doris .varchar), ("doris.STRING", styledMaker .doris .unbounded),
   ("doris.DATETIME", fractionMaker .doris false), ("doris.DATE", dateMaker .doris),
   ("doris.JSON", jsonMaker .doris), ("doris.HLL", stateMaker .hll),
   ("doris.BITMAP", stateMaker .bitmap)]

/-- The types that no database owns. -/
def genericClasses : List (String × Maker) :=
  [("sa.String", textMaker .generic .varchar), ("sa.Text", textMaker .generic .text),
   ("sa.Unicode", textMaker .generic .nvarchar), ("sa.UnicodeText", textMaker .generic .ntext),
   ("sa.Integer", integerMaker .generic .standard), ("sa.BigInteger", integerMaker .generic .big),
   ("sa.SmallInteger", integerMaker .generic .small), ("sa.Numeric", exactMaker .generic .numeric),
   ("sa.Float", floatingMaker .generic .float), ("sa.Double", floatingMaker .generic .double),
   ("sa.Boolean", booleanMaker .generic), ("sa.Date", dateMaker .generic),
   ("sa.DateTime", momentMaker .generic false), ("sa.Time", timeMaker .generic),
   ("sa.LargeBinary", binaryMaker .generic .blob), ("sa.JSON", jsonMaker .generic),
   ("sa.NullType", .simple plain fun _ => .untyped)]

/-- The types of the standard. -/
def standardClasses : List (String × Maker) :=
  [("sa.VARCHAR", textMaker .standard .varchar), ("sa.NVARCHAR", textMaker .standard .nvarchar),
   ("sa.CHAR", textMaker .standard .char), ("sa.NCHAR", textMaker .standard .nchar),
   ("sa.TEXT", textMaker .standard .text), ("sa.INTEGER", integerMaker .standard .standard),
   ("sa.BIGINT", integerMaker .standard .big), ("sa.SMALLINT", integerMaker .standard .small),
   ("sa.NUMERIC", exactMaker .standard .numeric), ("sa.DECIMAL", exactMaker .standard .decimal),
   ("sa.FLOAT", floatingMaker .standard .float), ("sa.REAL", floatingMaker .standard .real),
   ("sa.DOUBLE", floatingMaker .standard .double), ("sa.BOOLEAN", booleanMaker .standard),
   ("sa.DATE", dateMaker .standard), ("sa.DATETIME", momentMaker .standard false),
   ("sa.TIME", timeMaker .standard), ("sa.TIMESTAMP", momentMaker .standard true),
   ("sa.BLOB", binaryMaker .standard .blob), ("sa.BINARY", binaryMaker .standard .fixed),
   ("sa.VARBINARY", binaryMaker .standard .varying)]

/-- The types of the database that this one is compatible with. -/
def mysqlClasses : List (String × Maker) :=
  [("mysql.TINYINT", widthMaker .mysql .tiny), ("mysql.MEDIUMINT", widthMaker .mysql .medium),
   ("mysql.INTEGER", widthMaker .mysql .standard), ("mysql.BIGINT", widthMaker .mysql .big),
   ("mysql.SMALLINT", widthMaker .mysql .small), ("mysql.DECIMAL", markedMaker .mysql .decimal),
   ("mysql.NUMERIC", markedMaker .mysql .numeric),
   ("mysql.DOUBLE", checkedFloatingMaker .mysql .double),
   ("mysql.FLOAT", checkedFloatingMaker .mysql .float),
   ("mysql.REAL", checkedFloatingMaker .mysql .real),
   ("mysql.BIT", .simple lengthSignature fun p => .bit (p.get "length")),
   ("mysql.YEAR", .simple ⟨["display_width"], []⟩ fun p => .year (p.get "display_width")),
   ("mysql.TIME", .simple fractionSignature fun p =>
     .time .mysql (p.get "fsp") (p.isSet "timezone")),
   ("mysql.DATETIME", fractionMaker .mysql false), ("mysql.TIMESTAMP", fractionMaker .mysql true),
   ("mysql.VARCHAR", styledMaker .mysql .varchar), ("mysql.CHAR", styledMaker .mysql .char),
   ("mysql.NVARCHAR", nationalMaker .mysql .nvarchar),
   ("mysql.NCHAR", nationalMaker .mysql .nchar), ("mysql.TEXT", styledMaker .mysql .text),
   ("mysql.TINYTEXT", namedLengthMaker .mysql .tiny),
   ("mysql.MEDIUMTEXT", namedLengthMaker .mysql .medium),
   ("mysql.LONGTEXT", namedLengthMaker .mysql .long),
   ("mysql.TINYBLOB", binaryMaker .mysql .tiny), ("mysql.MEDIUMBLOB", binaryMaker .mysql .medium),
   ("mysql.LONGBLOB", binaryMaker .mysql .long), ("mysql.JSON", jsonMaker .mysql)]

/-- The types by their full names. -/
def classes : List (String × Maker) :=
  dorisClasses ++ genericClasses ++ standardClasses ++ mysqlClasses

/-- Creates the type of a full name with values for its parameters. -/
def create (fullName : String) (given : Arguments) : Except Failure ColumnType :=
  match classes.lookup fullName with
  | none => .error .notText
  | some maker =>
    match maker.signature.bind given with
    | .error e => .error e
    | .ok parameters => maker.make parameters

end SqlDialect.ColumnType
