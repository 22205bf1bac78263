import SqlDialect.Connection.Options

/-!
# Sessions

A session runs statements over an engine. An engine hands out connections and transactions and
answers statements; what it is asked, in order, is a list of `Event`s. Each operation of a session
is a function from the engine's answer to the events and the result, so that nothing is left from
one operation to the next.
-/

namespace SqlDialect.Connection

/-- What an engine is asked. -/
inductive Event where
  /-- A connection is asked for. -/
  | connect
  /-- A transaction is asked for. -/
  | begin
  /-- The connection or transaction is entered. -/
  | enter
  /-- The next statement is to be sent as it is, percent signs included. -/
  | withoutParameters
  /-- A statement is sent, perhaps with parameters. -/
  | execute (sql : Value) (parameters : Option (List Value))
  /-- The connection or transaction is left, after a failure if there was one. -/
  | exit (failure : Option Failure)
  /-- All connections are given up. -/
  | dispose

/-- What an engine answers to a statement that it accepts: rows, if the statement returns rows, and
the first value of the first one. -/
structure Reply where
  rows : Option (List (List (String × Value)))
  scalar : Value

/-- What comes of an operation: what the engine was asked, and the result. -/
structure Transcript where
  events : List Event
  result : Except Failure Value

namespace Session

/-- A row as an object; of two cells under one key the later one counts. -/
def rowObject (cells : List (String × Value)) : Value :=
  .object (Keyed.ofList cells).entries

/-- The failure or the value of what an engine answers. -/
def answerValue (value : Reply → Value) : Except String Reply → Except Failure Value
  | .ok reply => .ok (value reply)
  | .error message => .error (.refused message)

/-- The failure in a result. -/
def failure? : Except Failure Value → Option Failure
  | .ok _ => none
  | .error e => some e

/-- Runs `body` between asking for something and leaving it. -/
def enclosed (opening : Event) (body : Transcript) : Transcript :=
  ⟨opening :: .enter :: body.events ++ [.exit (failure? body.result)], body.result⟩

/-- The rows of a reply as objects; a statement without rows gives none. -/
def rowsValue (reply : Reply) : Value :=
  .list ((reply.rows.getD []).map rowObject)

/-- A statement within a transaction. Without values it is sent as it is; values have to be
something with elements, which become the parameters. -/
def queryBody (sql values : Value) (answer : Except String Reply) : Transcript :=
  if values.isTrue then
    match values.elements? with
    | some parameters => ⟨[.execute sql (some parameters)], answerValue rowsValue answer⟩
    | none => ⟨[], .error .wrongType⟩
  else ⟨[.withoutParameters, .execute sql none], answerValue rowsValue answer⟩

/-- Runs a statement in a transaction of its own and gives its rows. -/
def query (sql values : Value) (answer : Except String Reply) : Transcript :=
  enclosed .begin (queryBody sql values answer)

/-- The statement that tries a connection. -/
def trialSql : Value := .text "SELECT 1"

/-- Tries a connection. -/
def testConnection (answer : Except String Reply) : Transcript :=
  enclosed .connect ⟨[.execute trialSql none], answerValue Reply.scalar answer⟩

/-- Gives up all connections. -/
def release : Transcript := ⟨[.dispose], .ok .null⟩

/-- An operation of a session. -/
inductive Step where
  | query (sql values : Value)
  | testConnection
  | release

/-- Carries an operation out, given what the engine answers to a statement. -/
def perform : Step → Except String Reply → Transcript
  | .query sql values, answer => query sql values answer
  | .testConnection, answer => testConnection answer
  | .release, _ => release

/-- Carries operations out, each with what the engine answers to its statement. -/
def performAll (steps : List (Step × Except String Reply)) : List Transcript :=
  steps.map fun step => perform step.1 step.2

/-- The names of what an opening is given beside overrides, which no override can have: the session,
the settings, and the engine if there is one already. -/
def ownNames (hasEngine : Bool) : List String :=
  [Settings.ownName, "params"] ++ if hasEngine then ["engine"] else []

/-- The settings of a session: given ones, or else those of the environment, with overrides. -/
def settings (hasEngine : Bool) (given : Option Settings) (environment : List (String × String))
    (overrides : List (String × Value)) : Except Failure Settings :=
  if overrides.any fun override => (ownNames hasEngine).contains override.1 then .error .wrongType
  else
    match given with
    | some s => s.withOverrides overrides
    | none =>
      match Settings.ofEnvironment environment with
      | .ok s => s.withOverrides overrides
      | .error e => .error e

/-- Notes down where a session goes. -/
def noteOpened (s : Settings) : Outcome Unit :=
  Outcome.note .driver .debug
    ("doris driver for " ++ s.host.shown ++ ":" ++ s.port.shown ++ "/" ++ s.database.shown)

/-- Opens a session over an engine that is there already. -/
def openOver (given : Option Settings) (environment : List (String × String))
    (overrides : List (String × Value)) : Outcome Settings :=
  (Outcome.silent (settings true given environment overrides)).bind fun s =>
    (noteOpened s).bind fun _ => .ok s

/-- Opens a session over an engine made for its settings; the URL of the engine comes with it. -/
def openNew (given : Option Settings) (environment : List (String × String))
    (overrides : List (String × Value)) : Outcome (Settings × Url) :=
  (Outcome.silent (settings false given environment overrides)).bind fun s =>
    (Outcome.silent (Url.ofSettings s)).bind fun url =>
      (Options.ofUrl url true).bind fun _ =>
        (noteOpened s).bind fun _ => .ok (s, url)

end Session

end SqlDialect.Connection
