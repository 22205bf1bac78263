import SqlDialect.Proofs.Query.Zone
import SqlDialect.Proofs.Template.Missing
import SqlDialect.Query.Call

/-!
# How a call ends

A call of a query ends in one of three ways. It succeeds, and then a record is noted down for a
bucket, a conversion and a filled-in template, and for nothing else. Or it refuses the name of a
table, which is noted down as a warning. Or it fails for one of a few other reasons, and notes
nothing down: every record of a success comes after the last step that can fail.

`Ends` lists the three ways, and the operations are gone through here once. What is known of a call
by its end is read off from `Ends` afterwards.

Main statement: `perform_ends`.
-/

namespace SqlDialect

/-- The failures with which a call ends that notes nothing down. The key of a zone is not among
them, nor is the name of a table. -/
def Failure.isQuiet : Failure → Bool
  | .unsupportedGranularity _ | .dateOutOfRange | .missingKey _ | .undefinedParameter _
  | .malformedTemplate | .wrongType | .notText => true
  | _ => false

namespace Query

variable {zones : Zone.Lookup}

/-- What a call notes down when it succeeds with a value. -/
def successRecord? (q : Query zones) (now : Instant) (call : Call) (v : Value) : Option LogRecord :=
  match call with
  | .timeGroupedColumn granularity dimension =>
    some ⟨.granularity, .debug,
      "time grouped column for granularity: " ++ granularity.text?.getD "" ++ ", dimension: " ++
        dimension.shown ++ ", sql: " ++ v.shown⟩
  | .convertTz _ =>
    some ⟨.mysql, .debug,
      "resolved offset of timezone " ++ q.timezone ++ " to " ++
        Zone.offsetText (q.context.zone.offsetAt now)⟩
  | .renderTemplate category name _ =>
    some ⟨.templates, .debug,
      "rendered template " ++ category.shown ++ "." ++ name.shown ++ ": " ++ v.shown⟩
  | _ => none

/-- What is noted down when the name of a table is refused: the name and its length. -/
def refusalRecord (name : String) : LogRecord :=
  ⟨.doris, .warning,
    "table name " ++ name ++ " has " ++ Text.ofNat name.length ++ " characters, limit is " ++
      Text.ofNat maxTableNameLength⟩

/-- The ways in which a call can end. -/
inductive Ends (q : Query zones) (now : Instant) (call : Call) : Outcome Value → Prop where
  | done (v : Value) : Ends q now call ⟨.ok v, (q.successRecord? now call v).toList⟩
  | refused (name : String) (h : maxTableNameLength < name.length) :
    Ends q now call ⟨.error (.tableNameTooLong (.text name)), [refusalRecord name]⟩
  | failed (e : Failure) (h : e.isQuiet = true) : Ends q now call (.fail e)

variable {q : Query zones} {now : Instant}

/-! ## The operations that can fail -/

theorem ends_timeGroupedColumn (granularity dimension : Value) :
    Ends q now (.timeGroupedColumn granularity dimension)
      ((q.timeGroupedColumn granularity dimension).mapResult .text) := by
  rw [timeGroupedColumn_rule, Granularity.timeGroupedColumn]
  cases hparse : Granularity.parse granularity with
  | error e =>
    obtain rfl := Granularity.parse_error hparse
    exact .failed _ rfl
  | ok g =>
    have hend : Ends q now (.timeGroupedColumn granularity dimension) ⟨_, _⟩ :=
      .done (.text (Granularity.bucketTimestamp g dimension.shown))
    rw [successRecord?, Granularity.text?_of_parse hparse] at hend
    exact hend

theorem ends_convertTz (field : Value) :
    Ends q now (.convertTz field) ((q.convertTz now field).mapResult .text) := by
  rw [convertTz_eq]
  split
  · exact .done _
  · exact .failed .dateOutOfRange rfl

theorem ends_escapeColumnName (name : Value) :
    Ends q now (.escapeColumnName name) (.silent ((q.escapeColumnName name).map .text)) := by
  rw [escapeColumnName_rule, Identifier.quoteValue]
  cases name.text? with
  | none => exact .failed .notText rfl
  | some n => exact .done _

theorem ends_concatStrings (strings : Value) :
    Ends q now (.concatStrings strings) (.silent ((q.concatStrings strings).map .text)) := by
  rw [concatStrings_rule]
  cases hconcat : Rules.concatElements strings with
  | ok s => exact .done _
  | error e =>
    obtain rfl := Rules.concatElements_error hconcat
    exact .failed .wrongType rfl

theorem ends_preAggregationTableName (cube name skipSchema : Value) :
    Ends q now (.preAggregationTableName cube name skipSchema)
      (q.preAggregationTableName cube name skipSchema) := by
  obtain ⟨engine, c⟩ := q
  cases engine with
  | mysql => exact .done _
  | doris =>
    show Ends _ _ _ (Identifier.checkTableName (.text (c.tableName cube name skipSchema)))
    rw [Identifier.checkTableName, Value.length?_text, String.length_toList]
    simp only
    split
    · next h => exact .refused _ h
    · exact .done _

theorem ends_renderTemplate (category name : Value) (params : Template.Parameters) :
    Ends q now (.renderTemplate category name params)
      ((q.renderTemplate category name params).mapResult .text) := by
  rw [renderTemplate, Template.Catalog.render]
  split
  · next e hlookup =>
    rcases Template.Catalog.lookup_error hlookup with rfl | ⟨k, rfl⟩ <;> exact .failed _ rfl
  · split
    · next e hsource =>
      rcases Template.renderSource_error hsource with rfl | ⟨n, rfl⟩ <;> exact .failed _ rfl
    · exact .done _

/-- **How a call ends.** -/
theorem perform_ends (q : Query zones) (now : Instant) (call : Call) :
    Ends q now call (q.perform now call) := by
  cases call with
  | timeGroupedColumn granularity dimension => exact ends_timeGroupedColumn granularity dimension
  | convertTz field => exact ends_convertTz field
  | escapeColumnName name => exact ends_escapeColumnName name
  | concatStrings strings => exact ends_concatStrings strings
  | preAggregationTableName cube name skipSchema =>
    exact ends_preAggregationTableName cube name skipSchema
  | renderTemplate category name params => exact ends_renderTemplate category name params
  | addInterval date interval => exact .done _
  | subtractInterval date interval => exact .done _
  | timeStampCast v => exact .done _
  | dateTimeCast v => exact .done _
  | castToString sql => exact .done _
  | unixTimestamp => exact .done _
  | sqlTemplates => exact .done _

/-- No call ends by the key of a zone. -/
theorem Ends.ne_zoneKey {call : Call} {o : Outcome Value} (h : Ends q now call o)
    (fault : Zone.KeyFault) : o.result ≠ .error (.zoneKey fault) := by
  intro hresult
  cases h with
  | done v => cases hresult
  | refused name h => cases hresult
  | failed e h =>
    cases hresult
    cases h

end Query

end SqlDialect
