import SqlDialect.Proofs.Query.Frames
import SqlDialect.Proofs.Template.Balance
import SqlDialect.Proofs.Text.Replacement
import SqlDialect.Query.Call
import SqlDialect.Zone.Excerpt

/-!
# Nothing is left open

A query writes pieces of SQL around its operands. If these leave no quote and no bracket open, what
it writes leaves none open either: every rule is a balanced frame, every template for functions,
expressions or types is a balanced template, and a quoted name is closed whatever the name is, since
a backtick in it is written twice, which closes the quote and opens it again.

`Call.operands` lists what a call writes SQL around, `perform_isClosed` says what one call does, and
`Written` collects what comes out of calls on what came out of other calls.

Main statement: `sql_isClosed`.
-/

namespace SqlDialect

open Text (Marks scan)
open Text.Position (within)

/-! ## Names -/

namespace Text

/-- A quote that is written twice leaves the reader in the quote. -/
theorem scan_doubled {m : Marks} {q : Char} (hq : q ∈ m.quotes) (s : List Char) (d : Nat) :
    scan m ⟨some q, d⟩ (doubled [q] s) = some ⟨some q, d⟩ := by
  rw [doubled_singleton]
  induction s with
  | nil => rfl
  | cons c s ih =>
    rw [List.flatMap_cons]
    by_cases hc : c = q
    -- The first of the two marks ends the quote, and the second begins it again.
    · have hleave : Position.step m ⟨some q, d⟩ q = some (within d) := if_pos rfl
      have hreturn : (within d).step m q = some ⟨some q, d⟩ := if_pos hq
      rw [if_pos hc, List.cons_append, List.cons_append, List.nil_append, scan, hleave,
        Option.bind_some, scan, hreturn, Option.bind_some]
      exact ih
    · rw [if_neg hc, List.cons_append, List.nil_append, scan, step_quoted hc, Option.bind_some]
      exact ih

end Text

/-- **A quoted name is closed**, whatever the name. -/
theorem Identifier.isClosed_quoteWithBackticks (name : String) :
    Text.IsClosed .sql (Identifier.quoteWithBackticks name) := by
  have hopen : scan .sql (within 0) ['\x60'] = some ⟨some '\x60', 0⟩ := by decide
  have hclose : scan .sql ⟨some '\x60', 0⟩ ['\x60'] = some (within 0) := by decide
  have hmark : '\x60' ∈ Marks.sql.quotes := by decide
  have hname : (Identifier.quoteWithBackticks name).toList =
      ['\x60'] ++ (Text.doubled ['\x60'] name.toList ++ ['\x60']) := by
    simp [Identifier.quoteWithBackticks, Identifier.quoteIdentifier, Identifier.backtick]
  rw [Text.IsClosed, hname, Text.scan_append_of_eq hopen,
    Text.scan_append_of_eq (Text.scan_doubled hmark name.toList 0), hclose]

/-! ## Operands -/

namespace Query

open Statement (Frame)
open Template (Parameters)

variable {zones : Zone.Lookup}

namespace Call

/-- Whether a call writes a piece of SQL. The name of a table is none, and neither are the templates
as such or those that are quotes and places of parameters. -/
def WritesSql : Call → Prop
  | .preAggregationTableName _ _ _ => False
  | .sqlTemplates => False
  | .renderTemplate category _ _ => ∃ c ∈ Template.Catalog.sqlCategories, category = .text c
  | _ => True

/-- What a call writes SQL around. A granularity only selects a rule, and a name is not SQL. -/
def operands : Call → List Value
  | .timeGroupedColumn _ dimension => [dimension]
  | .addInterval date interval => [date, interval]
  | .subtractInterval date interval => [date, interval]
  | .convertTz field => [field]
  | .timeStampCast value => [value]
  | .dateTimeCast value => [value]
  | .escapeColumnName _ => []
  | .concatStrings strings => strings.elements?.getD []
  | .castToString sql => [sql]
  | .unixTimestamp => []
  | .preAggregationTableName _ _ _ => []
  | .sqlTemplates => []
  | .renderTemplate _ _ params => params.map Prod.snd

end Call

/-! ## One call -/

variable {q : Query zones} {now : Instant} {w : Value}

/-- A success of an operation that writes text. -/
theorem mapResult_text_eq_ok {x : Outcome String} (h : (x.mapResult Value.text).result = .ok w) :
    ∃ s, x.result = .ok s ∧ w = .text s := by
  rw [Outcome.mapResult_result] at h
  cases hx : x.result with
  | error e =>
    rw [hx] at h
    cases h
  | ok s =>
    rw [hx] at h
    cases h
    exact ⟨s, rfl, rfl⟩

theorem perform_escapeColumnName (q : Query zones) (now : Instant) (name : String) :
    (q.perform now (.escapeColumnName (.text name))).result =
      .ok (.text (Identifier.quoteWithBackticks name)) := by
  have hname : q.escapeColumnName (.text name) = .ok (Identifier.quoteWithBackticks name) :=
    (escapeColumnName_eq_ok_iff q).mpr ⟨name, rfl, rfl⟩
  show (q.escapeColumnName (.text name)).map Value.text = _
  rw [hname]
  rfl

theorem perform_timeGroupedColumn (q : Query zones) (now : Instant) {granularity : Value}
    {g : Granularity} (hg : Granularity.parse granularity = .ok g) (dimension : Value) :
    (q.perform now (.timeGroupedColumn granularity dimension)).result =
      .ok (.text ((Frame.timeGrouped g).fill dimension.shown)) := by
  have hbucket : (q.timeGroupedColumn granularity dimension).result =
      .ok ((Frame.timeGrouped g).fill dimension.shown) :=
    (timeGroupedColumn_eq_ok_iff q).mpr ⟨g, hg, rfl⟩
  show (q.timeGroupedColumn granularity dimension).result.map Value.text = _
  rw [hbucket]
  rfl

/-- The elements that are put one after another are closed texts if they are closed when written. A
granularity among them is written by its name. -/
theorem isClosed_textsOf {elements : List Value} {parts : List String}
    (h : Rules.textsOf elements = .ok parts)
    (hclosed : ∀ v ∈ elements, Text.IsClosed .sql v.shown) :
    ∀ s ∈ parts, Text.IsClosed .sql s := by
  induction elements generalizing parts with
  | nil =>
    cases h
    simp
  | cons v rest ih =>
    rw [Rules.textsOf] at h
    split at h
    · cases h
    · next s hs =>
      split at h
      · next more hmore =>
        cases h
        have hrest := ih hmore fun a ha => hclosed a (List.mem_cons_of_mem v ha)
        have hv : Text.IsClosed .sql v.shown := hclosed v List.mem_cons_self
        have hhead : Text.IsClosed .sql s := by
          cases v <;> cases hs
          · exact hv
          · next g => cases g <;> decide
        exact List.forall_mem_cons.mpr ⟨hhead, hrest⟩
      · cases h

/-- A template of the query for functions, expressions or types gives a closed text. -/
theorem renderSource_isClosed (q : Query zones) {category name source : String}
    (hc : category ∈ Template.Catalog.sqlCategories)
    (hs : q.sqlTemplates.source? category name = some source) {params : Parameters}
    (hparams : params.AreClosed .sql) :
    (∃ s, Template.renderSource source params = .ok s ∧ Text.IsClosed .sql s) ∨
      ∃ n, Template.renderSource source params = .error (.undefinedParameter n) ∧
        Entries.get? n params = none := by
  have hengines := Template.Catalog.isBalancedIn_engines hc
  have hbalanced : q.sqlTemplates.isBalancedIn .sql category = true := by
    obtain ⟨engine, c⟩ := q
    cases engine
    · exact hengines.1
    · exact hengines.2
  exact Template.renderSource_isClosed
    (Template.Catalog.isBalancedSource_of_source? hbalanced hs) hparams

/-- **What one call writes is closed** if what it writes around is. -/
theorem perform_isClosed {call : Call} (hsql : call.WritesSql)
    (hoperands : ∀ v ∈ call.operands, Text.IsClosed .sql v.shown)
    (h : (q.perform now call).result = .ok w) : Text.IsClosed .sql w.shown := by
  cases call with
  | timeGroupedColumn granularity dimension =>
    obtain ⟨s, hs, rfl⟩ := mapResult_text_eq_ok h
    obtain ⟨g, -, rfl⟩ := (timeGroupedColumn_eq_ok_iff q).mp hs
    exact (Frame.isBalanced_timeGrouped .sql g).fill (hoperands dimension (by simp [Call.operands]))
  | addInterval date interval =>
    cases h
    have hinterval := hoperands interval (by simp [Call.operands])
    rw [Value.shown_text, addInterval_eq]
    exact (Frame.isBalanced_dateInterval false hinterval).fill
      (hoperands date (by simp [Call.operands]))
  | subtractInterval date interval =>
    cases h
    have hinterval := hoperands interval (by simp [Call.operands])
    rw [Value.shown_text, subtractInterval_eq]
    exact (Frame.isBalanced_dateInterval true hinterval).fill
      (hoperands date (by simp [Call.operands]))
  | convertTz field =>
    obtain ⟨s, hs, rfl⟩ := mapResult_text_eq_ok h
    obtain ⟨offset, hoffset, rfl⟩ := (convertTz_eq_ok_iff q).mp hs
    have hquote := Zone.quote_notMem_utcOffset hoffset
    exact (Frame.isBalanced_atOffset .sql hquote).fill (hoperands field (by simp [Call.operands]))
  | timeStampCast value =>
    cases h
    have hvalue := hoperands value (by simp [Call.operands])
    rcases timeStampCast_shown q value with hkept | hcast
    · rw [hkept]
      exact hvalue
    · rw [hcast]
      exact (Frame.isBalanced_timestamp .sql).fill hvalue
  | dateTimeCast value =>
    cases h
    rw [Value.shown_text, dateTimeCast_eq]
    exact (Frame.isBalanced_timestamp .sql).fill (hoperands value (by simp [Call.operands]))
  | escapeColumnName name =>
    obtain ⟨s, hs, rfl⟩ := mapResult_text_eq_ok (x := .silent (q.escapeColumnName name)) h
    obtain ⟨n, -, rfl⟩ := (escapeColumnName_eq_ok_iff q).mp hs
    exact Identifier.isClosed_quoteWithBackticks n
  | concatStrings strings =>
    obtain ⟨s, hs, rfl⟩ := mapResult_text_eq_ok (x := .silent (q.concatStrings strings)) h
    obtain ⟨elements, parts, helements, hparts, rfl⟩ := (concatStrings_eq_ok_iff q).mp hs
    refine Rules.isClosed_concatenation (isClosed_textsOf hparts fun v hv => ?_)
    exact hoperands v (by simpa [Call.operands, helements] using hv)
  | castToString sql =>
    cases h
    rw [Value.shown_text, castToString_eq]
    exact (Frame.isBalanced_char .sql).fill (hoperands sql (by simp [Call.operands]))
  | unixTimestamp =>
    have hnow : Text.IsClosed .sql Rules.unixTimestampNow := by decide
    cases h
    obtain ⟨engine, c⟩ := q
    cases engine <;> exact hnow
  | preAggregationTableName cube name skipSchema => exact hsql.elim
  | sqlTemplates => exact hsql.elim
  | renderTemplate category name params =>
    obtain ⟨c, hc, rfl⟩ := hsql
    obtain ⟨s, hs, rfl⟩ := mapResult_text_eq_ok h
    rw [renderTemplate_eq, Template.Catalog.render_result] at hs
    cases hlookup : q.sqlTemplates.lookup (.text c) name with
    | error e =>
      rw [hlookup] at hs
      cases hs
    | ok source =>
      rw [hlookup] at hs
      obtain ⟨n, rfl, hsource⟩ := Template.Catalog.lookup_eq_ok hlookup
      have hparams : params.AreClosed .sql := fun entry hentry =>
        hoperands entry.2 (List.mem_map_of_mem hentry)
      rcases renderSource_isClosed q hc hsource hparams with ⟨t, ht, hclosed⟩ | ⟨n, hn, -⟩
      · obtain rfl : t = s := Except.ok.inj (ht.symm.trans hs)
        exact hclosed
      · cases hn.symm.trans hs

/-! ## Calls on what came out of calls -/

/-- What calls write around what other calls wrote, whenever each was made. It starts from closed
texts, such as intervals, and from calls without operands, such as quoted names. -/
inductive Written (q : Query zones) : Value → Prop
  | given {v : Value} (h : Text.IsClosed .sql v.shown) : Written q v
  | call {now : Instant} {call : Call} {w : Value} (hsql : call.WritesSql)
    (hoperands : ∀ v ∈ call.operands, Written q v) (h : (q.perform now call).result = .ok w) :
    Written q w

theorem Written.isClosed {v : Value} (h : Written q v) : Text.IsClosed .sql v.shown := by
  induction h with
  | given h => exact h
  | call hsql _ h ih => exact perform_isClosed hsql ih h

/-- **Nothing is left open.** What a call writes around closed texts is closed; a quoted name is
closed, whatever it is; a template for functions, expressions or types that is filled in with closed
texts gives a closed text, or names a parameter that was not given; and so it goes on for calls on
what came out of calls. -/
theorem sql_isClosed (q : Query zones) :
    (∀ (now : Instant) (call : Call) (w : Value), call.WritesSql →
      (∀ v ∈ call.operands, Text.IsClosed .sql v.shown) → (q.perform now call).result = .ok w →
        Text.IsClosed .sql w.shown) ∧
    (∀ (now : Instant) (name : String), ∃ s,
      (q.perform now (.escapeColumnName (.text name))).result = .ok (.text s) ∧
        Text.IsClosed .sql s) ∧
    (∀ (now : Instant), ∀ category ∈ Template.Catalog.sqlCategories, ∀ name source : String,
      q.sqlTemplates.source? category name = some source →
        ∀ params : Parameters, (∀ entry ∈ params, Text.IsClosed .sql entry.2.shown) →
          (∃ s, (q.perform now (.renderTemplate (.text category) (.text name) params)).result =
              .ok (.text s) ∧ Text.IsClosed .sql s) ∨
            ∃ n, (q.perform now (.renderTemplate (.text category) (.text name) params)).result =
              .error (.undefinedParameter n) ∧ Entries.get? n params = none) ∧
    ∀ v, Written q v → Text.IsClosed .sql v.shown := by
  refine ⟨fun now call w => perform_isClosed, ?_, ?_, fun v => Written.isClosed⟩
  · intro now name
    exact ⟨Identifier.quoteWithBackticks name, perform_escapeColumnName q now name,
      Identifier.isClosed_quoteWithBackticks name⟩
  · intro now category hc name source hsource params hparams
    have hrender : (q.perform now (.renderTemplate (.text category) (.text name) params)).result =
        (Template.renderSource source params).map Value.text := by
      show (q.renderTemplate (.text category) (.text name) params).result.map Value.text = _
      rw [renderTemplate_eq, Template.Catalog.render_result,
        Template.Catalog.lookup_of_source? hsource]
      rfl
    rw [hrender]
    rcases renderSource_isClosed q hc hsource hparams with ⟨s, hs, hclosed⟩ | ⟨n, hn, hmissing⟩
    · exact Or.inl ⟨s, by rw [hs]; rfl, hclosed⟩
    · exact Or.inr ⟨n, by rw [hn]; rfl, hmissing⟩

/-- A name with quotes and a bracket in it, floored to a day. -/
theorem written_bucket_of_hostile_name :
    Written (⟨.doris, ⟨"UTC", .null, by decide⟩⟩ : Query Zone.excerpt)
        (.text "CAST(DATE_FORMAT(\x60a\x60\x60('\x60, '%Y-%m-%dT00:00:00.000') AS DATETIME)") ∧
      Text.IsClosed .sql
        "CAST(DATE_FORMAT(\x60a\x60\x60('\x60, '%Y-%m-%dT00:00:00.000') AS DATETIME)" := by
  have hname : Written (⟨.doris, ⟨"UTC", .null, by decide⟩⟩ : Query Zone.excerpt)
      (.text (Identifier.quoteWithBackticks "a\x60('")) := by
    refine .call ?_ ?_ (perform_escapeColumnName _ ⟨0⟩ "a\x60('")
    · exact trivial
    · simp [Call.operands]
  have hbucket : Written (⟨.doris, ⟨"UTC", .null, by decide⟩⟩ : Query Zone.excerpt)
      (.text ((Frame.timeGrouped .day).fill (Identifier.quoteWithBackticks "a\x60('"))) := by
    refine .call ?_ ?_ (perform_timeGroupedColumn _ ⟨0⟩ (Granularity.parse_name .day)
      (.text (Identifier.quoteWithBackticks "a\x60('")))
    · exact trivial
    · simpa [Call.operands] using hname
  have hsql : (Frame.timeGrouped .day).fill (Identifier.quoteWithBackticks "a\x60('") =
      "CAST(DATE_FORMAT(\x60a\x60\x60('\x60, '%Y-%m-%dT00:00:00.000') AS DATETIME)" := by
    decide
  rw [hsql] at hbucket
  obtain ⟨-, -, -, hwritten⟩ :=
    sql_isClosed (⟨.doris, ⟨"UTC", .null, by decide⟩⟩ : Query Zone.excerpt)
  exact ⟨hbucket, hwritten _ hbucket⟩

end Query

end SqlDialect
