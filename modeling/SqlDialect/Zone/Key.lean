import SqlDialect.Text.Split

/-!
# Keys of time zones

A time zone is named by a key such as `Europe/Berlin`, which is a path below the directory of the
zone data. `checkKey` says why a key cannot be one; the reasons are tried in a fixed order: the path
is absolute, it is not in normal form, it leaves the directory. Whether a zone of that name exists
is a question for the data.
-/

namespace SqlDialect.Zone

/-- Why something is not the key of a time zone. -/
inductive KeyFault where
  | notText
  | absolute (key : String)
  | notNormal (key : String)
  | outside (key : String)
  | unknown (key : String)
  deriving DecidableEq, Repr

/-- Takes the components of a relative path to normal form: empty ones and `.` vanish, `..` takes
back the component before it. The components so far are in reverse. -/
def normalComponents : List (List Char) → List (List Char) → List (List Char)
  | done, [] => done.reverse
  | done, part :: rest =>
    if part = [] ∨ part = ['.'] then normalComponents done rest
    else if part = ['.', '.'] then
      match done with
      -- There is nothing to take back, so the path goes up from where it starts.
      | [] => normalComponents [part] rest
      | top :: below =>
        if top = ['.', '.'] then normalComponents (part :: done) rest
        else normalComponents below rest
    else normalComponents (part :: done) rest

/-- The normal form of a relative path; nothing at all is written `.`. -/
def normalPath (path : List Char) : List Char :=
  match normalComponents [] (Text.splitAt '/' path) with
  | [] => ['.']
  | parts => Text.joinWith '/' parts

/-- Whether a relative path stays strictly below the directory it starts from, which is called `_`
here. -/
def staysBelow (path : List Char) : Bool :=
  match normalComponents [] (['_'] :: Text.splitAt '/' path) with
  | ['_'] :: _ :: _ => true
  | _ => false

/-- The fault of a key that no zone can have, whatever the zone data. -/
def checkKey (key : String) : Option KeyFault :=
  let path := key.toList
  if path.head? = some '/' then some (.absolute key)
  else if (normalPath path).length ≠ path.length then some (.notNormal key)
  else if !staysBelow (normalPath path) then some (.outside key)
  else none

end SqlDialect.Zone
