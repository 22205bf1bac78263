import SqlDialect.Arguments
import SqlDialect.Connection.Url
import SqlDialect.Outcome
import SqlDialect.Text.Lower

/-!
# Connection options

The options that a connection is opened with, made from a URL: its parts, then the entries of its
query, which may replace parts. Texts for options that are numbers or truth values are read as such,
and the options on encryption are gathered in an object of their own.

What is noted down about the options leaves out the password.
-/

namespace SqlDialect.Connection

/-- Options in their order. -/
abbrev Options := Keyed Value

namespace Options

/-! ## Reading values -/

/-- Words for true. -/
def trueWords : List String := ["true", "yes", "on", "y", "t", "1"]

/-- Words for false. -/
def falseWords : List String := ["false", "no", "off", "n", "f", "0"]

/-- The truth value of a text, whatever its case and the blanks around it. -/
def readTruth (text : String) : Except Failure Value :=
  let word := Text.lower (String.ofList (Text.trim text.toList))
  if trueWords.contains word then .ok (.bool true)
  else if falseWords.contains word then .ok (.bool false)
  else .error (.notBoolean word)

/-- What the value of an option has to be. -/
inductive Kind where
  | truth | integer | text
  deriving DecidableEq, Repr

/-- A value as what it has to be. -/
def convert : Kind → Value → Except Failure Value
  | .truth, .text s => readTruth s
  | .truth, v => .ok (.bool v.isTrue)
  | .integer, .text s =>
    match Text.readInteger? s with
    | some n => .ok (.int n)
    | none => .error (.notInteger s)
  | .integer, .int n => .ok (.int n)
  | .integer, _ => .error .wrongType
  | .text, v => .ok (.text v.shown)

/-- The options whose values are converted, in the order in which that is done. -/
def kinds : List (String × Kind) :=
  [("compress", .truth), ("connect_timeout", .integer), ("read_timeout", .integer),
   ("write_timeout", .integer), ("client_flag", .integer), ("local_infile", .truth),
   ("use_unicode", .truth), ("charset", .text)]

/-- Converts the value of one option if it is there. -/
def convertOption (options : Options) (option : String × Kind) : Except Failure Options :=
  match options.get? option.1 with
  | none => .ok options
  | some v => (convert option.2 v).map (options.insert option.1)

/-! ## Encryption -/

/-- The options on encryption, with the names that they have in their own object. -/
def encryptionKinds : List (String × String × Kind) :=
  [("ssl_ca", "ca", .text), ("ssl_key", "key", .text), ("ssl_cert", "cert", .text),
   ("ssl_capath", "capath", .text), ("ssl_cipher", "cipher", .text),
   ("ssl_check_hostname", "check_hostname", .truth)]

/-- The entries of the object on encryption. -/
def encryptionEntries (options : Options) :
    List (String × String × Kind) → Except Failure (List (String × Value))
  | [] => .ok []
  | (option, name, kind) :: rest =>
    match options.get? option with
    | none => encryptionEntries options rest
    | some v =>
      match convert kind v with
      | .error e => .error e
      | .ok v => (encryptionEntries options rest).map ((name, v) :: ·)

/-- Moves the options on encryption into an object of their own. -/
def gatherEncryption (options : Options) : Except Failure Options :=
  match encryptionEntries options encryptionKinds with
  | .error e => .error e
  | .ok [] => .ok options
  | .ok entries =>
    let others := encryptionKinds.foldl (fun o option => o.erase option.1) options
    .ok (others.insert "ssl" (.object entries))

/-! ## Options of a URL -/

/-- Adds an option if its value counts as true. -/
def addIfTrue (options : Options) (entry : String × Value) : Options :=
  if entry.2.isTrue then options.insert entry.1 entry.2 else options

/-- A part of a URL as a value. -/
def partValue (part : Option String) : Value :=
  match part with
  | some s => .text s
  | none => .null

/-- The parts of a URL under the names of their options. The password becomes a text. -/
def parts (u : Url) : List (String × Value) :=
  [("host", partValue u.host), ("database", partValue u.database), ("user", partValue u.user),
   ("password",
    match u.password with
    | some p => if p.isTrue then .text p.shown else .null
    | none => .null),
   ("port",
    match u.port with
    | some n => .int n
    | none => .null)]

/-- The options that a URL gives, before any conversion. -/
def given (u : Url) : Options :=
  ((parts u).foldl addIfTrue Keyed.empty).insertAll u.query

/-- The flag by which a driver counts the rows found and not the rows changed. -/
def foundRowsFlag (flags : Int) : Int :=
  if flags / 2 % 2 = 0 then flags + 2 else flags

/-- Sets the flag on found rows. -/
def setFoundRows (options : Options) : Options :=
  match options.get? "client_flag" with
  | some (.int n) => options.insert "client_flag" (.int (foundRowsFlag n))
  | _ => options.insert "client_flag" (.int (foundRowsFlag 0))

/-- The options of a URL. A driver that is there gets its flag set. -/
def convertAll (u : Url) (hasDriver : Bool) : Except Failure Options := do
  let options ← kinds.foldlM convertOption (given u)
  let options ← gatherEncryption options
  pure (if hasDriver then setFoundRows options else options)

/-- The options without the password. -/
def withoutPassword (options : Options) : Options :=
  options.erase "password"

/-- The options of a URL, noted down without the password. -/
def ofUrl (u : Url) (hasDriver : Bool) : Outcome Options :=
  (Outcome.silent (convertAll u hasDriver)).bind fun options =>
    (Outcome.note .dialect .debug
      ("connect_args: " ++ (Value.object (withoutPassword options).entries).shown)).bind fun _ =>
        .ok options

/-- The arguments that a connection is opened with: options, and nothing by position. -/
def arguments (u : Url) (hasDriver : Bool) : Outcome Arguments :=
  (ofUrl u hasDriver).mapResult fun options => ⟨[], options.entries⟩

end Options

end SqlDialect.Connection
