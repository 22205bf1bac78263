import SqlDialect.Proofs.Statement.Balance
import SqlDialect.Query.Basic

/-!
# Operations of a query as frames

What the operations of a query write is the same for both engines but for the cast to a timestamp,
and it is a frame around an operand, or a list of operands in one pair of brackets. These are the
equations by which the other proofs about queries know the operations.

Main statements: `timeGroupedColumn_eq_ok_iff`, `convertTz_eq_ok_iff` and `concatStrings_eq_ok_iff`,
when an operation succeeds and what it writes then.
-/

namespace SqlDialect.Query

open Statement (Frame)

variable {zones : Zone.Lookup} (q : Query zones)

/-- A bucket is written exactly for what is a granularity, as the frame of the granularity. -/
theorem timeGroupedColumn_eq_ok_iff {granularity dimension : Value} {s : String} :
    (q.timeGroupedColumn granularity dimension).result = .ok s ↔
      ∃ g, Granularity.parse granularity = .ok g ∧
        s = (Frame.timeGrouped g).fill dimension.shown := by
  rw [timeGroupedColumn_rule, Granularity.timeGroupedColumn]
  cases Granularity.parse granularity with
  | error e => simp [Outcome.fail]
  | ok g => simp [Frame.fill_timeGrouped, Outcome.note, Outcome.bind, Outcome.ok, eq_comm]

theorem addInterval_eq (date interval : Value) :
    q.addInterval date interval = (Frame.dateInterval false interval.shown).fill date.shown := by
  obtain ⟨engine, c⟩ := q
  rw [Frame.fill_dateInterval]
  cases engine <;> rfl

theorem subtractInterval_eq (date interval : Value) :
    q.subtractInterval date interval =
      (Frame.dateInterval true interval.shown).fill date.shown := by
  obtain ⟨engine, c⟩ := q
  rw [Frame.fill_dateInterval]
  cases engine <;> rfl

/-- A field is converted exactly if the zone of the query has an offset then, and to that offset. -/
theorem convertTz_eq_ok_iff {now : Instant} {field : Value} {s : String} :
    (q.convertTz now field).result = .ok s ↔
      ∃ offset, Zone.utcOffset zones (.text q.timezone) now = .ok offset ∧
        s = (Frame.atOffset offset).fill field.shown := by
  rw [convertTz_rule, Rules.convertToZone]
  cases Zone.utcOffset zones (.text q.timezone) now with
  | error e => simp [Outcome.fail]
  | ok offset => simp [Frame.fill_atOffset, Outcome.note, Outcome.bind, Outcome.ok, eq_comm]

/-- A cast to a timestamp is left out or written as the other cast. -/
theorem timeStampCast_shown (v : Value) :
    (q.timeStampCast v).shown = v.shown ∨
      (q.timeStampCast v).shown = Frame.timestamp.fill v.shown := by
  obtain ⟨engine, c⟩ := q
  cases engine
  · exact Or.inr rfl
  · exact Or.inl rfl

theorem dateTimeCast_eq (v : Value) : q.dateTimeCast v = Frame.timestamp.fill v.shown := by
  obtain ⟨engine, c⟩ := q
  rw [Frame.fill_timestamp]
  cases engine <;> rfl

theorem castToString_eq (v : Value) : q.castToString v = Frame.char.fill v.shown := by
  obtain ⟨engine, c⟩ := q
  rw [Frame.fill_char]
  cases engine <;> rfl

/-- Elements are put one after another exactly if all of them are texts. -/
theorem concatStrings_eq_ok_iff {strings : Value} {s : String} :
    q.concatStrings strings = .ok s ↔
      ∃ elements parts, strings.elements? = some elements ∧
        Rules.textsOf elements = .ok parts ∧ s = Rules.concatenation parts := by
  rw [concatStrings_rule, Rules.concatElements]
  cases strings.elements? with
  | none => simp
  | some elements =>
    cases h : Rules.textsOf elements <;> simp [h, eq_comm]

/-- A name is quoted exactly if it is a text. -/
theorem escapeColumnName_eq_ok_iff {name : Value} {s : String} :
    q.escapeColumnName name = .ok s ↔
      ∃ n, name.text? = some n ∧ s = Identifier.quoteWithBackticks n := by
  rw [escapeColumnName_rule, Identifier.quoteValue]
  cases name.text? <;>
    simp [Identifier.quoteWithBackticks, Identifier.quoteIdentifier, eq_comm]

theorem renderTemplate_eq (category name : Value) (params : Template.Parameters) :
    q.renderTemplate category name params = q.sqlTemplates.render category name params := rfl

end SqlDialect.Query
