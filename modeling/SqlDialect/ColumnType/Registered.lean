import SqlDialect.ColumnType.Create

/-!
# Registered type names

The types that a database may report for a column, by the words that it uses. A word that is not
registered has no type.

Main statement: `lookup_classes_isSome`, by which every registered type can be created.
-/

namespace SqlDialect.ColumnType

/-- The full name of the type for each word. -/
def registeredNames : List (String × String) :=
  [("boolean", "doris.BOOLEAN"), ("tinyint", "doris.TINYINT"), ("smallint", "doris.SMALLINT"),
   ("int", "doris.INTEGER"), ("integer", "doris.INTEGER"), ("bigint", "doris.BIGINT"),
   ("largeint", "doris.LARGEINT"), ("float", "doris.FLOAT"), ("double", "doris.DOUBLE"),
   ("decimal", "doris.DECIMAL"), ("decimalv2", "doris.DECIMAL"), ("decimalv3", "doris.DECIMAL"),
   ("varchar", "doris.VARCHAR"), ("char", "doris.CHAR"), ("string", "doris.STRING"),
   ("text", "doris.STRING"), ("json", "doris.JSON"), ("jsonb", "doris.JSON"),
   ("date", "doris.DATE"), ("datev2", "doris.DATE"), ("datetime", "doris.DATETIME"),
   ("datetimev2", "doris.DATETIME"), ("hll", "doris.HLL"), ("bitmap", "doris.BITMAP")]

/-- The full name of the type that is registered for a word. -/
def registered? (word : String) : Option String :=
  registeredNames.lookup word

/-- The registered words in the order of the alphabet. -/
def registeredWords : List String :=
  (registeredNames.map Prod.fst).mergeSort fun a b => a ≤ b

/-- Every registered type can be created. -/
theorem lookup_classes_isSome :
    ∀ entry ∈ registeredNames, (classes.lookup entry.2).isSome = true := by
  decide

end SqlDialect.ColumnType
