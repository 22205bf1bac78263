import SqlDialect.Failure
import SqlDialect.Keyed

/-!
# Connection settings

Where and as whom to connect: five fields, each with a default. Settings come in layers. The
environment may set fields with texts, and overrides may replace fields with any values; an override
with nothing in it leaves its field alone. No override can be called what the settings themselves are
called where they are overridden.
-/

namespace SqlDialect.Connection

/-- A field of the settings. -/
inductive Field where
  | host | port | user | password | database
  deriving DecidableEq, Repr

namespace Field

/-- The fields in their order. -/
def all : List Field := [.host, .port, .user, .password, .database]

/-- The name under which a field is set. -/
def name : Field → String
  | .host => "host"
  | .port => "port"
  | .user => "user"
  | .password => "password"
  | .database => "database"

/-- The variable of the environment that sets a field. -/
def environmentName : Field → String
  | .host => "DORIS_HOST"
  | .port => "DORIS_PORT"
  | .user => "DORIS_USER"
  | .password => "DORIS_PASSWORD"
  | .database => "DORIS_DATABASE"

/-- The value of a field that nothing sets. -/
def default : Field → Value
  | .host => .text "localhost"
  | .port => .int 9030
  | .user => .text "root"
  | .password => .text ""
  | .database => .text "test"

theorem mem_all (f : Field) : f ∈ all := by
  cases f <;> simp [all]

end Field

/-- Where and as whom to connect. -/
structure Settings where
  host : Value
  port : Value
  user : Value
  password : Value
  database : Value

namespace Settings

/-- The value of a field. -/
def get (s : Settings) : Field → Value
  | .host => s.host
  | .port => s.port
  | .user => s.user
  | .password => s.password
  | .database => s.database

/-- The settings with given values of the fields. -/
def ofFields (value : Field → Value) : Settings :=
  ⟨value .host, value .port, value .user, value .password, value .database⟩

/-- The settings when nothing is set. -/
def default : Settings := ofFields Field.default

/-- The values of the fields in their order. -/
def values (s : Settings) : List Value :=
  Field.all.map s.get

@[simp] theorem get_ofFields (value : Field → Value) (f : Field) :
    (ofFields value).get f = value f := by
  cases f <;> rfl

@[simp] theorem ofFields_get (s : Settings) : ofFields s.get = s := rfl

/-- Whether a name is that of a field. -/
def isFieldName (key : String) : Bool :=
  Field.all.any fun f => f.name == key

/-- Settings from values for some of the fields; other names are refused. -/
def create (given : List (String × Value)) : Except Failure Settings :=
  if given.all fun entry => isFieldName entry.1 then
    .ok (ofFields fun f => (Entries.get? f.name given).getD f.default)
  else .error .wrongType

/-- The value that an environment gives a field. The text for the port has to be a whole number. -/
def environmentValue (environment : List (String × String)) (f : Field) : Except Failure Value :=
  match Entries.get? f.environmentName environment, f with
  | none, f => .ok f.default
  | some text, .port =>
    match Text.readInteger? text with
    | some n => .ok (.int n)
    | none => .error (.notInteger text)
  | some text, _ => .ok (.text text)

/-- The settings of an environment. -/
def ofEnvironment (environment : List (String × String)) : Except Failure Settings := do
  let host ← environmentValue environment .host
  let port ← environmentValue environment .port
  let user ← environmentValue environment .user
  let password ← environmentValue environment .password
  let database ← environmentValue environment .database
  pure ⟨host, port, user, password, database⟩

/-- Whether a value is something. -/
def isGiven : Value → Bool
  | .null => false
  | _ => true

/-- The overrides that have something in them. -/
def given (overrides : List (String × Value)) : List (String × Value) :=
  overrides.filter fun entry => isGiven entry.2

/-- The name that settings themselves have where they are overridden, which no override can have. -/
def ownName : String := "self"

/-- Whether an override can be taken: one with something in it has to name a field. -/
def isAcceptable (override : String × Value) : Bool :=
  override.1 != ownName && (!isGiven override.2 || isFieldName override.1)

/-- Settings in which overrides replace fields. An override with nothing in it changes nothing,
whatever field or none it names; one with something in it has to name a field. -/
def withOverrides (s : Settings) (overrides : List (String × Value)) : Except Failure Settings :=
  if overrides.all isAcceptable then
    .ok (ofFields fun f => (Entries.get? f.name (given overrides)).getD (s.get f))
  else .error .wrongType

/-- Whether two settings are equal, field by field. -/
def same (s t : Settings) : Bool :=
  Field.all.all fun f => (s.get f).same (t.get f)

end Settings

end SqlDialect.Connection
