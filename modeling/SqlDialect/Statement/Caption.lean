import SqlDialect.Statement.Source

/-!
# Labels of the columns of a query

Which label each column of a query gets. A given label stays. A column of a table needs none unless
its name has come up before, or the query is the source of another, or labels start with the names
of tables. What has no name gets a generated one, and a cast the name of what is cast.

The columns are gone through from the left to the right; `Seen` holds the names that have come up.
-/

namespace SqlDialect.Statement

/-- What is written behind a column of a query. -/
inductive Caption where
  | bare
  | given (name : String)
  | generated (name : Name)
  deriving DecidableEq, Repr

/-- The names that have come up, the latest first, each with the column of a source that it is for,
if it is for one. -/
abbrev Seen := List (Name × Option (String × String))

namespace Expression

/-- The name that an expression has by itself. -/
def ownName? : Expression → Option String
  | .column _ name _ => some name
  | .text sql _ => some sql
  | .bareColumn name => some name
  | .label _ name => some name
  | .columnRef _ e => ownName? e
  | _ => none

/-- Whether an expression has a name by itself. -/
def isNamed (e : Expression) : Bool :=
  e.ownName?.isSome

/-- The name for an expression that has none. A function lends its name to what is generated, and a
cast has the name of what is cast. -/
def anonymousName (place : Place) : Expression → Name
  | .cast e _ =>
    match e.ownName? with
    | some name => if name.isEmpty then anonymousName (place.child 0) e else [.text name]
    | none => anonymousName (place.child 0) e
  | .call function _ => Name.anonymous function (.place place)
  | _ => Name.anonymous anonymousBase (.place place)

/-- The label of an expression that starts with the name of its source, if it has one. -/
def qualified? (env : Environment) : Expression → Option Name
  | .column source name _ => some (env.labelOf source name)
  | .label _ name => some [.text name]
  | .bareColumn name => some [.text name]
  | .cast e _ => qualified? env e
  | _ => none

/-- The name that a column of a query has before it is made different from others. -/
def wanted? (env : Environment) (isQualified : Bool) (e : Expression) : Option Name :=
  if isQualified then e.qualified? env
  else
    match e with
    | .column _ name _ => some [.text name]
    | .label _ name => some [.text name]
    | _ => none

/-- The caption of a column whose name need not be written, with the name that it would get. -/
def captionIfNeeded (isSource : Bool) (name : Name) : Expression → Caption
  | .text _ _ | .bareColumn _ => .bare
  | .label _ given => .given given
  | .column _ _ _ => if isSource then .generated name else .bare
  | .unary _ e | .isTrue _ e => if isSource || !e.isNamed then .generated name else .bare
  | _ => .generated name

/-- The caption of a column whose name has to be written. -/
def captionRequired (name : Name) : Expression → Caption
  | .label _ given => .given given
  | _ => .generated name

/-- The column of a source that an expression is. -/
def identity? : Expression → Option (String × String)
  | .column source name _ => some (source, name)
  | _ => none

/-- What numbers tell a column apart by: the column of a source is the same wherever it stands. -/
def mark (place : Place) : Expression → Mark
  | .column source name _ => .column source name
  | _ => .place place

/-- The name of a column that has come up before. -/
def repeatedName (env : Environment) (isQualified : Bool) (place : Place) (e : Expression) : Name :=
  match e with
  | .column _ name _ =>
    if isQualified then Name.withRepeat ((e.qualified? env).getD []) (.place place)
    else Name.withRepeat [.text name] (.place place)
  | _ => Name.withRepeat ((e.qualified? env).getD [.text anonymousBase]) (.place place)

/-- The caption of a column without a name. -/
def captionAnonymous (env : Environment) (isQualified isSource : Bool) (seen : Seen)
    (place : Place) (e : Expression) : Caption × Seen :=
  let name := e.anonymousName place
  let shown := if (seen.lookup name).isSome then e.repeatedName env isQualified place else name
  (e.captionIfNeeded isSource shown, (name, none) :: seen)

/-- The caption of a column whose name has come up before for another one. -/
def captionClashing (env : Environment) (isQualified : Bool) (seen : Seen) (place : Place)
    (name : Name) (e : Expression) : Caption × Seen :=
  let different := Name.withNumber name (e.mark place)
  if (seen.lookup different).isSome then
    (e.captionRequired (e.repeatedName env isQualified place), seen)
  else (e.captionRequired different, (different, e.identity?) :: seen)

/-- The caption of a column, and the names that have come up then. -/
def caption (env : Environment) (isQualified isSource : Bool) (seen : Seen) (place : Place)
    (e : Expression) : Caption × Seen :=
  match e with
  | .text _ _ | .bareColumn _ => (.bare, seen)
  | e =>
    match e.wanted? env isQualified with
    | none => e.captionAnonymous env isQualified isSource seen place
    | some name =>
      match seen.lookup name with
      | some found =>
        -- The very same column of a source may come twice; its second label is a repetition.
        if found.isSome && found = e.identity? then
          (e.captionRequired (e.repeatedName env isQualified place), seen)
        else e.captionClashing env isQualified seen place name
      | none =>
        (if isQualified then e.captionRequired name else e.captionIfNeeded isSource name,
          (name, e.identity?) :: seen)

/-- The captions of columns from a number on. -/
def captions (env : Environment) (isQualified isSource : Bool) (place : Place) :
    Nat → Seen → List Expression → List Caption
  | _, _, [] => []
  | i, seen, e :: rest =>
    let (c, seen) := e.caption env isQualified isSource seen (place.child i)
    c :: captions env isQualified isSource place (i + 1) seen rest

end Expression

end SqlDialect.Statement
