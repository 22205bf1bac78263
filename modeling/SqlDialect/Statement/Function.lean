import SqlDialect.Identifier.Written
import SqlDialect.Statement.Piece
import SqlDialect.Text.Lower

/-!
# Functions of the database

The functions that an expression may call. Most are written as they are called. Some are known:
their names are the same in capital and small letters, and a few of them are written in a way of
their own.
-/

namespace SqlDialect.Statement.Function

/-- The functions of the SQL standard that need no brackets if they have no arguments, with their
spellings. -/
def bare : List (String × String) :=
  [("current_date", "CURRENT_DATE"), ("current_time", "CURRENT_TIME"),
   ("current_timestamp", "CURRENT_TIMESTAMP"), ("current_user", "CURRENT_USER"),
   ("localtime", "LOCALTIME"), ("localtimestamp", "LOCALTIMESTAMP"),
   ("session_user", "SESSION_USER"), ("user", "USER")]

/-- The other functions that are known. -/
def known : List String :=
  ["aggregate_strings", "array_agg", "char_length", "coalesce", "concat", "count", "cube",
   "cume_dist", "dense_rank", "grouping_sets", "max", "min", "mode", "now", "percent_rank",
   "percentile_cont", "percentile_disc", "random", "rank", "rollup", "sum", "sysdate"]

/-- Whether a name in small letters is that of a known function. -/
def isKnown (name : String) : Bool :=
  known.contains name || (bare.lookup name).isSome

/-- A name without an underscore at the end, which callers use to avoid words of theirs. -/
def dropFinalUnderscore (name : List Char) : List Char :=
  if name.getLast? = some '_' then name.dropLast else name

/-- The name of a function from the name under which it is called. -/
def nameOf (called : String) : String :=
  let name := String.ofList (dropFinalUnderscore called.toList)
  if isKnown (Text.lower name) then Text.lower name else name

/-- The name of a function as it is written before its arguments. -/
def writtenName (name : String) : Except Failure String :=
  if name.isEmpty then .error .emptyName
  else if (Identifier.dropFinalBreak name.toList).all Identifier.isFunctionChar then .ok name
  else .ok (Identifier.quoteWithBackticks name)

/-- Arguments with commas between them. -/
def listed (arguments : List Pieces) : Pieces :=
  Pieces.joined [.text ", "] (arguments.filter fun a => !a.isBlank)

/-- Arguments between brackets. -/
def argumentList (arguments : List Pieces) : Pieces :=
  Pieces.bracketedIf true (listed arguments)

/-- A function that is written as its name and its arguments. -/
def general (name : String) (arguments : List Pieces) : Except Failure Pieces :=
  (writtenName name).map fun w => .text w :: argumentList arguments

/-- The functions that are written in a way of their own. -/
def special? (name : String) (arguments : List Pieces) : Option Pieces :=
  if name = "random" then some (.text "rand" :: argumentList arguments)
  else if name = "sysdate" then some [.text "SYSDATE()"]
  else if name = "rollup" then some (listed arguments ++ [.text " WITH ROLLUP"])
  else if name = "cube" then some (.text "CUBE" :: argumentList arguments)
  else if name = "grouping_sets" then some (.text "GROUPING SETS" :: argumentList arguments)
  else
    (bare.lookup name).map fun spelled =>
      .text spelled :: (if arguments.isEmpty then [] else argumentList arguments)

/-- A call as it is written. -/
def written (name : String) (arguments : List Pieces) : Except Failure Pieces :=
  match special? name arguments with
  | some pieces => .ok pieces
  | none => general name arguments

end SqlDialect.Statement.Function
