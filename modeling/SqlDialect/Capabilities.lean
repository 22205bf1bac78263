import SqlDialect.ColumnType.Registered
import SqlDialect.Identifier.Written

/-!
# Capabilities

What a program that talks to the database may ask about it before it sends a statement.
-/

namespace SqlDialect

/-- What a program may ask about a database. -/
structure Capabilities where
  /-- The name of the database. -/
  name : String
  /-- The name of the driver that connections use. -/
  driver : String
  /-- The most characters an identifier may have. -/
  maxIdentifierLength : Nat
  /-- Whether the text of a statement may be used again. -/
  cachesStatements : Bool
  /-- Whether a row may be inserted without naming any column. -/
  insertsEmptyRows : Bool
  /-- Whether there are truth values. -/
  hasBooleans : Bool
  /-- How parameters are marked in a statement. -/
  parameterStyle : String
  /-- The quotes before and after an identifier, and the one that is written twice inside. -/
  quotes : List String
  /-- The words that the database uses for types. -/
  typeWords : List String

namespace Capabilities

/-- The capabilities of this database. -/
def doris : Capabilities where
  name := "doris"
  driver := "pymysql"
  maxIdentifierLength := maxTableNameLength
  cachesStatements := true
  insertsEmptyRows := false
  hasBooleans := true
  parameterStyle := "format"
  quotes := List.replicate 3 (String.ofList [Identifier.backtick])
  typeWords := ColumnType.registeredWords

end Capabilities

end SqlDialect
