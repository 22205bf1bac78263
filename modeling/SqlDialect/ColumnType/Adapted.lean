import SqlDialect.ColumnType.Create
import SqlDialect.ColumnType.Written
import SqlDialect.Text.Replace

/-!
# Types as the database has them

`adapted` is the type that stands for a type in this database: its own type if there is one, else
that of the database it is compatible with. Parameters go along. `castText?` is what a cast to a
type says, which is only partly the text of the adapted type: integers become signed or unsigned
ones, and texts of all kinds become `CHAR`. To some types nothing can be cast.
-/

namespace SqlDialect.ColumnType

/-- Whether an origin is that of a database. -/
def Origin.isOwned : Origin → Bool
  | .doris | .mysql => true
  | .standard | .generic => false

/-- The type with a moving point that stands for one that no database owns. -/
def adaptedFloating (word : FloatingWord) (precision : Value) : Except Failure ColumnType :=
  match word with
  | .double => checkedFloating .mysql .double precision .null {}
  | .float | .real => checkedFloating .mysql .float precision .null {}

/-- The type that stands for a type in this database. -/
def adapted : ColumnType → Except Failure ColumnType
  | .exact .standard .decimal precision scale marks =>
    .ok (.exact .doris .decimal precision scale marks)
  | .exact .standard .numeric precision scale marks =>
    .ok (.exact .mysql .numeric precision scale marks)
  | .exact .generic _ precision scale marks => .ok (.exact .mysql .numeric precision scale marks)
  | .state _ precision scale => .ok (.exact .mysql .numeric precision scale {})
  | .floating .standard word precision _ _ => adaptedFloating word precision
  | .floating .generic word precision _ _ => adaptedFloating word precision
  | .date _ => .ok (.date .doris)
  | .moment .doris isTimestamp fraction zone => .ok (.moment .doris isTimestamp fraction zone)
  | .moment _ _ fraction zone => .ok (.moment .doris false fraction zone)
  | .time _ fraction zone => .ok (.time .mysql fraction zone)
  | .json _ => .ok (.json .mysql)
  | t => .ok t

/-! ## Casts -/

/-- The text type that a cast to a text type says. -/
def castTextType (o : Origin) (word : TextWord) (length : Value) (style : TextStyle) : ColumnType :=
  match word with
  | .char => .text o .char length style
  | _ =>
    if o.isOwned then .text .mysql .char length { style with isNational := false }
    else .text .mysql .char length {}

/-- What a cast to an integer type says. -/
def castInteger (marks : NumberMarks) : String :=
  if marks.isUnsigned then "UNSIGNED INTEGER" else "SIGNED INTEGER"

/-- What a cast to a type of this database says, if anything can be cast to it. -/
def castAdapted? : ColumnType → Option String
  | .boolean o => text? (.boolean o)
  | .integer _ _ _ marks => some (castInteger marks)
  | .exact _ _ precision scale marks => text? (.exact .mysql .decimal precision scale marks)
  | .text o word length style => text? (castTextType o word length style)
  | .binary _ _ _ => some "BINARY"
  | .date o => text? (.date o)
  | .moment o isTimestamp fraction zone => text? (.moment o isTimestamp fraction zone)
  | .time o fraction zone => text? (.time o fraction zone)
  | .json _ => some "JSON"
  | .state _ _ _ | .floating _ _ _ _ _ | .bit _ | .year _ | .untyped => none

/-- What a cast to a type says; nothing if the cast has to be left out. The unknown type cannot even
be left out. -/
def castText? (t : ColumnType) : Except Failure (Option String) :=
  match t.adapted with
  | .error e => .error e
  | .ok a => if a.isUntyped then .error (.untyped "") else .ok a.castAdapted?

/-- The cast of an operand; the operand alone if the cast has to be left out. -/
def castOf (operand : String) (t : ColumnType) : Except Failure String :=
  t.castText?.map fun said =>
    match said with
    | some s => Text.concat ["CAST(", operand, " AS ", s, ")"]
    | none => operand

end SqlDialect.ColumnType
