import SqlDialect.Literal
import SqlDialect.Table.Definition

/-!
# Options of a table as SQL

Options follow the columns of a table in the order in which they were given, with two exceptions:
the collation comes after the character set that it belongs to, and the options on partitions come
last, in an order of their own.
-/

namespace SqlDialect.Table

/-- The options on partitions in their order. -/
def partitionNames : List String :=
  ["PARTITION_BY", "PARTITIONS", "SUBPARTITION_BY", "SUBPARTITIONS"]

/-- The options that say a character set. -/
def charsetNames : List String :=
  ["DEFAULT_CHARSET", "DEFAULT_CHARACTER_SET", "CHARSET", "CHARACTER_SET"]

/-- The options whose values are texts. -/
def textNames : List String := ["COMMENT", "PASSWORD", "CONNECTION"]

/-- The options whose names are written in several words. -/
def spacedNames : List String :=
  ["DATA_DIRECTORY", "INDEX_DIRECTORY", "DEFAULT_CHARACTER_SET", "CHARACTER_SET",
   "DEFAULT_CHARSET", "DEFAULT_COLLATE"] ++ partitionNames

/-- The options whose values follow without an equals sign. -/
def unmarkedNames : List String :=
  ["TABLESPACE", "DEFAULT_CHARACTER_SET", "CHARACTER_SET", "COLLATE"] ++ partitionNames

/-- A name with spaces for underscores. -/
def spaced (name : String) : String :=
  String.ofList (name.toList.map fun c => if c = '_' then ' ' else c)

/-- The value of an option as it is written. Only texts can be. -/
def optionValue (name : String) (value : Value) : Except Failure String :=
  match value.text? with
  | none => .error .wrongType
  | some s => .ok (if textNames.contains name then Literal.ofText s else s)

/-- An option as it is written. -/
def optionText (entry : String × Value) : Except Failure String :=
  (optionValue entry.1 entry.2).map fun value =>
    Text.concat [if spacedNames.contains entry.1 then spaced entry.1 else entry.1,
      if unmarkedNames.contains entry.1 then " " else "=", value]

/-- Whether an option is the collation. -/
def isCollation (entry : String × Value) : Bool :=
  entry.1 = "COLLATE"

/-- Options with the collation behind all others if there is a character set that it belongs to. -/
def collationLast (entries : List (String × Value)) : List (String × Value) :=
  if entries.any fun entry => charsetNames.contains entry.1 then
    entries.filter (fun entry => !isCollation entry) ++ entries.filter isCollation
  else entries

/-- The options in the order in which they are written. -/
def ordered (entries : List (String × Value)) : List (String × Value) :=
  collationLast (entries.filter fun entry => !partitionNames.contains entry.1) ++
    partitionNames.flatMap fun name => entries.filter fun entry => entry.1 = name

/-- The options of a table, its comment among them. -/
def Definition.allOptions (t : Definition) : Keyed Value :=
  match t.comment with
  | some comment => t.options.insert "COMMENT" (.text comment)
  | none => t.options

/-- The options of a table as they are written behind its columns. -/
def Definition.optionsText (t : Definition) : Except Failure String :=
  ((ordered t.allOptions.entries).mapM optionText).map (Text.joined " ")

end SqlDialect.Table
