import SqlDialect.Value.Basic

/-!
# Column types

The types that a column or an expression may have. A type belongs to a family, such as the integers
or the texts; within its family a word tells it from its kin, and parameters, such as a length or a
precision, say the rest. Each type also has an origin: the same word may be spelled by this
database, by the database it is compatible with, by the standard, or in a way that no database owns.

Parameters are values, and nothing stands for one that is not given.
-/

namespace SqlDialect

namespace ColumnType

/-- Where the spelling of a type comes from. -/
inductive Origin where
  | doris | mysql | standard | generic
  deriving DecidableEq, Repr

/-- The integers, by their size. -/
inductive IntegerWord where
  | tiny | small | medium | standard | big | large
  deriving DecidableEq, Repr

/-- The fractions of a fixed number of places. -/
inductive ExactWord where
  | numeric | decimal
  deriving DecidableEq, Repr

/-- The states of an aggregation that is not finished. -/
inductive StateWord where
  | hll | bitmap
  deriving DecidableEq, Repr

/-- The fractions of a moving point. -/
inductive FloatingWord where
  | float | double | real
  deriving DecidableEq, Repr

/-- The texts. -/
inductive TextWord where
  | char | nchar | varchar | nvarchar | text | ntext | unbounded | tiny | medium | long
  deriving DecidableEq, Repr

/-- The sequences of octets. -/
inductive BinaryWord where
  | fixed | varying | blob | tiny | medium | long
  deriving DecidableEq, Repr

/-- Marks that some numeric types carry. -/
structure NumberMarks where
  isUnsigned : Bool := false
  hasZeros : Bool := false
  deriving DecidableEq, Repr

/-- How the characters of a text type are encoded and compared. -/
structure TextStyle where
  charset : Value := .null
  collation : Value := .null
  isAscii : Bool := false
  isUnicode : Bool := false
  isBinary : Bool := false
  isNational : Bool := false

end ColumnType

open ColumnType in
/-- The type of a column or an expression. -/
inductive ColumnType where
  | boolean (origin : Origin)
  | integer (origin : Origin) (word : IntegerWord) (width : Value) (marks : NumberMarks)
  | exact (origin : Origin) (word : ExactWord) (precision scale : Value) (marks : NumberMarks)
  | state (word : StateWord) (precision scale : Value)
  | floating (origin : Origin) (word : FloatingWord) (precision scale : Value) (marks : NumberMarks)
  | text (origin : Origin) (word : TextWord) (length : Value) (style : TextStyle)
  | binary (origin : Origin) (word : BinaryWord) (length : Value)
  | date (origin : Origin)
  | moment (origin : Origin) (isTimestamp : Bool) (fraction : Value) (hasZone : Bool)
  | time (origin : Origin) (fraction : Value) (hasZone : Bool)
  | json (origin : Origin)
  | bit (length : Value)
  | year (width : Value)
  | untyped
  deriving Inhabited

namespace ColumnType

/-! ## Names -/

/-- The spellings of a word: as no database owns it, in that form with small letters, and as SQL. -/
structure Spelling where
  camel : String
  snake : String
  upper : String

/-- The spellings of an integer type. -/
def IntegerWord.spelling : IntegerWord → Spelling
  | .tiny => ⟨"TinyInteger", "tiny_integer", "TINYINT"⟩
  | .small => ⟨"SmallInteger", "small_integer", "SMALLINT"⟩
  | .medium => ⟨"MediumInteger", "medium_integer", "MEDIUMINT"⟩
  | .standard => ⟨"Integer", "integer", "INTEGER"⟩
  | .big => ⟨"BigInteger", "big_integer", "BIGINT"⟩
  | .large => ⟨"LargeInteger", "large_integer", "LARGEINT"⟩

/-- The spellings of a fraction of a fixed number of places. -/
def ExactWord.spelling : ExactWord → Spelling
  | .numeric => ⟨"Numeric", "numeric", "NUMERIC"⟩
  | .decimal => ⟨"Decimal", "decimal", "DECIMAL"⟩

/-- The name of the state of an aggregation. -/
def StateWord.name : StateWord → String
  | .hll => "HLL"
  | .bitmap => "BITMAP"

/-- The spellings of a fraction of a moving point. -/
def FloatingWord.spelling : FloatingWord → Spelling
  | .float => ⟨"Float", "float", "FLOAT"⟩
  | .double => ⟨"Double", "double", "DOUBLE"⟩
  | .real => ⟨"Real", "real", "REAL"⟩

/-- The spellings of a text type. -/
def TextWord.spelling : TextWord → Spelling
  | .char => ⟨"Char", "char", "CHAR"⟩
  | .nchar => ⟨"NationalChar", "national_char", "NCHAR"⟩
  | .varchar => ⟨"String", "string", "VARCHAR"⟩
  | .nvarchar => ⟨"Unicode", "unicode", "NVARCHAR"⟩
  | .text => ⟨"Text", "text", "TEXT"⟩
  | .ntext => ⟨"UnicodeText", "unicode_text", "NTEXT"⟩
  | .unbounded => ⟨"Unbounded", "unbounded", "STRING"⟩
  | .tiny => ⟨"TinyText", "tiny_text", "TINYTEXT"⟩
  | .medium => ⟨"MediumText", "medium_text", "MEDIUMTEXT"⟩
  | .long => ⟨"LongText", "long_text", "LONGTEXT"⟩

/-- The spellings of a sequence of octets. -/
def BinaryWord.spelling : BinaryWord → Spelling
  | .fixed => ⟨"Binary", "binary", "BINARY"⟩
  | .varying => ⟨"VarBinary", "var_binary", "VARBINARY"⟩
  | .blob => ⟨"LargeBinary", "large_binary", "BLOB"⟩
  | .tiny => ⟨"TinyBlob", "tiny_blob", "TINYBLOB"⟩
  | .medium => ⟨"MediumBlob", "medium_blob", "MEDIUMBLOB"⟩
  | .long => ⟨"LongBlob", "long_blob", "LONGBLOB"⟩

/-- The origin and the spellings of a type. -/
def spelling : ColumnType → Origin × Spelling
  | .boolean o => (o, ⟨"Boolean", "boolean", "BOOLEAN"⟩)
  | .integer o word _ _ => (o, word.spelling)
  | .exact o word _ _ _ => (o, word.spelling)
  | .state word _ _ => (.doris, ⟨word.name, word.name, word.name⟩)
  | .floating o word _ _ _ => (o, word.spelling)
  | .text o word _ _ => (o, word.spelling)
  | .binary o word _ => (o, word.spelling)
  | .date o => (o, ⟨"Date", "date", "DATE"⟩)
  | .moment o false _ _ => (o, ⟨"DateTime", "datetime", "DATETIME"⟩)
  | .moment o true _ _ => (o, ⟨"Timestamp", "timestamp", "TIMESTAMP"⟩)
  | .time o _ _ => (o, ⟨"Time", "time", "TIME"⟩)
  | .json o => (o, ⟨"JSON", "JSON", "JSON"⟩)
  | .bit _ => (.mysql, ⟨"Bit", "bit", "BIT"⟩)
  | .year _ => (.mysql, ⟨"Year", "year", "YEAR"⟩)
  | .untyped => (.generic, ⟨"NullType", "null", "NULL"⟩)

/-- The name of a type without its parameters. -/
def name (t : ColumnType) : String :=
  match t.spelling with
  | (.generic, s) => s.camel
  | (_, s) => s.upper

/-- The name of a type in small letters where no database owns it. -/
def tag (t : ColumnType) : String :=
  match t.spelling with
  | (.generic, s) => s.snake
  | (_, s) => s.upper

/-- The name of the collection that types of an origin are in. -/
def Origin.collection : Origin → String
  | .doris => "doris"
  | .mysql => "mysql"
  | .standard | .generic => "sa"

/-- The name of a type with the collection that it is in. -/
def fullName (t : ColumnType) : String :=
  t.spelling.1.collection ++ "." ++ t.name

/-! ## Kinds -/

/-- Whether the values of a type are truth values. -/
def isBoolean : ColumnType → Bool
  | .boolean _ => true
  | _ => false

/-- Whether the values of a type are whole numbers. -/
def isInteger : ColumnType → Bool
  | .integer _ _ _ _ => true
  | _ => false

/-- Whether nothing is known of a type. -/
def isUntyped : ColumnType → Bool
  | .untyped => true
  | _ => false

end ColumnType

end SqlDialect
