import SqlDialect.Failure
import SqlDialect.Outcome
import SqlDialect.Text.Replace

/-!
# Quoting identifiers, and the length of table names

`quoteIdentifier` writes a name between two quotes, each quote inside the name twice, so that the
name can be read back from the text whatever follows it. `checkTableName` is the limit on the length
of table names; a name that is refused is noted down with its length.

The functions on values ask for what they need: quoting needs texts, the limit needs something that
has a length.
-/

namespace SqlDialect.Identifier

/-- The quote around identifiers. -/
def backtick : Char := '\x60'

/-- A name between quotes, in which every occurrence of the quote is written twice. -/
def quoteIdentifier (name quote : String) : String :=
  quote ++ String.ofList (Text.doubled quote.toList name.toList) ++ quote

/-- A name between backticks. -/
def quoteWithBackticks (name : String) : String :=
  quoteIdentifier name (String.ofList [backtick])

/-- Quotes a name given as a value. The name is looked at first: it has to be a text, and then the
quote has to be one. The quotes around the name are written as any value is written into a text. -/
def quoteValue (name quote : Value) : Except Failure String :=
  match name.text?, quote.text? with
  | none, _ => .error .notText
  | some _, none => .error .wrongType
  | some n, some q =>
    .ok (quote.shown ++ String.ofList (Text.doubled q.toList n.toList) ++ quote.shown)

/-- Whether a name is within the limit. -/
def isShortEnough (name : String) : Bool :=
  name.toList.length ≤ maxTableNameLength

/-- Lets a value pass that has no more elements than a table name may have. One that has more is
noted down and refused; one that has no length at all is refused. -/
def checkTableName (name : Value) : Outcome Value :=
  match name.length? with
  | none => .fail .wrongType
  | some length =>
    if maxTableNameLength < length then
      (Outcome.note .doris .warning
        ("table name " ++ name.shown ++ " has " ++ Text.ofNat length ++ " characters, limit is " ++
          Text.ofNat maxTableNameLength)).bind fun _ => .fail (.tableNameTooLong name)
    else .ok name

/-- Quoting a text value is quoting the text. -/
theorem quoteValue_text (name quote : String) :
    quoteValue (.text name) (.text quote) = .ok (quoteIdentifier name quote) := rfl

theorem isShortEnough_iff (name : String) :
    isShortEnough name = true ↔ name.length ≤ maxTableNameLength := by
  rw [isShortEnough, String.length_toList]
  exact decide_eq_true_iff

/-- A text passes the limit exactly if it is short enough. -/
theorem checkTableName_text (name : String) :
    (checkTableName (.text name)).result =
      if isShortEnough name then .ok (.text name) else .error (.tableNameTooLong (.text name)) := by
  by_cases h : name.toList.length ≤ maxTableNameLength
  · simp [checkTableName, isShortEnough, Value.length?_text, h, Nat.not_lt.mpr h, Outcome.ok]
  · simp [checkTableName, isShortEnough, Value.length?_text, h, Nat.lt_of_not_le h, Outcome.bind,
      Outcome.note, Outcome.fail]

end SqlDialect.Identifier
