import SqlDialect.Template.Catalog

/-!
# The catalogues of the two engines

The catalogue for MySQL, and the one for Doris, which is made from it by a list of changes: other
names of types, no `ILIKE`, no type for intervals, another way to write a quote inside an
identifier, and an order that puts missing values first or last by sorting on whether they are
missing.
-/

namespace SqlDialect.Template.Catalog

/-- The templates for MySQL. -/
def mysql : Catalog := ofList
  [("functions",
    [("COALESCE", "COALESCE(\x7b\x7b args_concat \x7d\x7d)"),
     ("CONCAT", "CONCAT(\x7b\x7b args_concat \x7d\x7d)"),
     ("GREATEST", "GREATEST(\x7b\x7b args_concat \x7d\x7d)"),
     ("LEAST", "LEAST(\x7b\x7b args_concat \x7d\x7d)"),
     ("LOWER", "LOWER(\x7b\x7b args_concat \x7d\x7d)"),
     ("UPPER", "UPPER(\x7b\x7b args_concat \x7d\x7d)"),
     ("NOW", "NOW()")]),
   ("expressions",
    [("column_aliased", "\x7b\x7b expr \x7d\x7d \x7b\x7b quoted_alias \x7d\x7d"),
     ("binary", "(\x7b\x7b left \x7d\x7d \x7b\x7b op \x7d\x7d \x7b\x7b right \x7d\x7d)"),
     ("is_null",
      "(\x7b\x7b expr \x7d\x7d IS \x7b% if negate %\x7dNOT \x7b% endif %\x7dNULL)"),
     ("cast", "CAST(\x7b\x7b expr \x7d\x7d AS \x7b\x7b data_type \x7d\x7d)"),
     ("sort",
      "\x7b\x7b expr \x7d\x7d \x7b% if asc %\x7dASC\x7b% else %\x7dDESC\x7b% endif %\x7d " ++
        "NULLS \x7b% if nulls_first %\x7dFIRST\x7b% else %\x7dLAST\x7b% endif %\x7d"),
     ("like",
      "\x7b\x7b expr \x7d\x7d \x7b% if negated %\x7dNOT \x7b% endif %\x7dLIKE " ++
        "\x7b\x7b pattern \x7d\x7d"),
     ("ilike",
      "\x7b\x7b expr \x7d\x7d \x7b% if negated %\x7dNOT \x7b% endif %\x7dILIKE " ++
        "\x7b\x7b pattern \x7d\x7d"),
     ("true", "TRUE"),
     ("false", "FALSE")]),
   ("quotes", [("identifiers", "\x60"), ("escape", "\x60\x60")]),
   ("params", [("param", "?")]),
   ("types",
    [("string", "VARCHAR"),
     ("text", "TEXT"),
     ("boolean", "TINYINT(1)"),
     ("tinyint", "TINYINT"),
     ("smallint", "SMALLINT"),
     ("integer", "INTEGER"),
     ("bigint", "BIGINT"),
     ("float", "FLOAT"),
     ("double", "DOUBLE"),
     ("decimal", "DECIMAL(\x7b\x7b precision \x7d\x7d,\x7b\x7b scale \x7d\x7d)"),
     ("timestamp", "TIMESTAMP"),
     ("date", "DATE"),
     ("time", "TIME"),
     ("interval", "INTERVAL"),
     ("binary", "BLOB")])]

/-- An order of rows that sorts on whether the expression is missing first. -/
def missingAwareSort : String :=
  "\x7b\x7b expr \x7d\x7d IS NULL " ++
    "\x7b% if nulls_first %\x7dDESC\x7b% else %\x7dASC\x7b% endif %\x7d, " ++
    "\x7b\x7b expr \x7d\x7d \x7b% if asc %\x7dASC\x7b% else %\x7dDESC\x7b% endif %\x7d"

/-- What differs for Doris. -/
def dorisChanges : List Change :=
  [.override "quotes" "identifiers" "\x60",
   .override "quotes" "escape" "\\\x60",
   .override "expressions" "sort" missingAwareSort,
   .remove "expressions" "ilike",
   .override "types" "string" "VARCHAR",
   .override "types" "text" "STRING",
   .override "types" "binary" "STRING",
   .override "types" "boolean" "BOOLEAN",
   .override "types" "timestamp" "DATETIME",
   .remove "types" "interval"]

/-- The templates for Doris. -/
def doris : Catalog := mysql.withChanges dorisChanges

end SqlDialect.Template.Catalog
