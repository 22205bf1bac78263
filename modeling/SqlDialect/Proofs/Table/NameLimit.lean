import SqlDialect.Proofs.Query.Ending
import SqlDialect.Table.Create
import SqlDialect.Zone.Excerpt

/-!
# The limit on names of tables

A name of more than 64 characters is refused in two places: when a table is created, where the name
is measured without its schema, and when a query names a table of pre-aggregated rows, where the
schema and a point count as well unless they are left out. So a name that a query gives can be
created, and the other way round only if the schema leaves room.

A table whose name is too long is refused for its name whatever else is wrong with it. For the
converse one has to know that nothing else is refused in that way, and so the failures of writing a
table are gone through here: `createText_fails` says that there are five kinds of them.

Main statements: `create_of_too_long` and `isRefused_iff`; `name_limits_fit`.
-/

namespace SqlDialect

/-- The failures of writing a table: an empty name, a column whose type has no text or is given half
of its parameters, a column that is to number rows and cannot, an option whose value is no text. -/
def Failure.isOfTable : Failure → Bool
  | .emptyName | .untyped _ | .scaleMissing | .autoincrementType _ _ | .wrongType => true
  | _ => false

/-- What fails, fails as the writing of a table does. -/
def FailsAsTable {α : Type} (x : Except Failure α) : Prop :=
  ∀ e, x = .error e → e.isOfTable = true

namespace FailsAsTable

variable {α β : Type}

theorem ok (a : α) : FailsAsTable (.ok a) := by
  intro e h
  cases h

theorem error {e : Failure} (h : e.isOfTable = true) :
    FailsAsTable (.error e : Except Failure α) := by
  intro e' he
  cases he
  exact h

theorem map {x : Except Failure α} (h : FailsAsTable x) (f : α → β) : FailsAsTable (x.map f) := by
  intro e he
  cases x with
  | error e' =>
    cases he
    exact h e rfl
  | ok a => cases he

theorem bind {x : Except Failure α} {f : α → Except Failure β} (h : FailsAsTable x)
    (hf : ∀ a, FailsAsTable (f a)) : FailsAsTable (x >>= f) := by
  intro e he
  cases x with
  | error e' =>
    cases he
    exact h e rfl
  | ok a => exact hf a e he

theorem mapM {f : α → Except Failure β} (hf : ∀ a, FailsAsTable (f a)) (l : List α) :
    FailsAsTable (l.mapM f) := by
  induction l with
  | nil => exact ok []
  | cons a rest ih =>
    rw [List.mapM_cons]
    exact (hf a).bind fun b => ih.bind fun bs => ok (b :: bs)

theorem forM {f : α → Except Failure PUnit} (hf : ∀ a, FailsAsTable (f a)) (l : List α) :
    FailsAsTable (l.forM f) := by
  induction l with
  | nil => exact ok ()
  | cons a rest ih => exact (hf a).bind fun _ => ih

end FailsAsTable

namespace Identifier

theorem written_fails (name : String) : FailsAsTable (written name) := by
  refine FailsAsTable.map ?_ _
  unfold needsQuotes
  split
  · exact .error rfl
  · exact .ok _

theorem writtenIn_fails (schema : Option String) (name : String) :
    FailsAsTable (writtenIn schema name) := by
  refine (written_fails name).bind fun written => ?_
  cases schema with
  | none => exact .ok _
  | some schema =>
    show FailsAsTable (if schema.isEmpty then _ else _)
    split
    · exact .ok _
    · exact (written_fails schema).map _

end Identifier

namespace ColumnType

theorem writtenAt_fails (place : String) (t : ColumnType) : FailsAsTable (t.writtenAt place) := by
  unfold writtenAt
  split
  · exact .ok _
  · exact .error rfl

theorem checkedFloating_fails (o : Origin) (word : FloatingWord) (precision scale : Value)
    (marks : NumberMarks) : FailsAsTable (checkedFloating o word precision scale marks) := by
  unfold checkedFloating
  split
  · exact .error rfl
  · exact .ok _

theorem adapted_fails (t : ColumnType) : FailsAsTable t.adapted := by
  have hfloating (word : FloatingWord) (precision : Value) :
      FailsAsTable (adaptedFloating word precision) := by
    cases word <;> exact checkedFloating_fails _ _ _ _ _
  unfold adapted
  split
  case h_5 word precision _ _ => exact hfloating word precision
  case h_6 word precision _ _ => exact hfloating word precision
  all_goals exact .ok _

end ColumnType

namespace Table

/-! ## Failures of writing a table -/

theorem Column.written_fails (c : Column) : FailsAsTable c.written := by
  unfold Column.written
  split
  · exact Identifier.written_fails _
  · exact .ok _
  · exact .ok _

theorem checkNumbering_fails (table : String) (c : Column) :
    FailsAsTable (checkNumbering table c) := by
  unfold checkNumbering
  split
  · exact .ok _
  · exact .error rfl

theorem optionText_fails (entry : String × Value) : FailsAsTable (optionText entry) := by
  refine FailsAsTable.map ?_ _
  unfold optionValue
  split
  · exact .error rfl
  · exact .ok _

namespace Definition

variable (t : Definition)

theorem numberingColumn?_fails : FailsAsTable t.numberingColumn? := by
  unfold numberingColumn?
  split
  · split
    · exact (checkNumbering_fails _ _).map _
    · exact .ok _
    · exact .ok _
  · exact (FailsAsTable.forM (checkNumbering_fails t.name) _).map _

theorem columnText_fails (c : Column) : FailsAsTable (t.columnText c) :=
  c.written_fails.bind fun _ =>
    (ColumnType.writtenAt_fails _ _).bind fun _ =>
      (ColumnType.adapted_fails _).bind fun _ =>
        t.numberingColumn?_fails.bind fun _ => .ok _

theorem setText_fails (word : String) (names : List String) :
    FailsAsTable (t.setText word names) := by
  have hcolumn (name : String) : FailsAsTable (t.writtenColumn name) := by
    unfold writtenColumn
    split
    · exact Column.written_fails _
    · exact Identifier.written_fails _
  unfold setText
  split
  · exact .ok _
  · exact (FailsAsTable.mapM hcolumn _).map _

theorem constraintTexts_fails : FailsAsTable t.constraintTexts := by
  have hkey : FailsAsTable t.primaryKey := t.numberingColumn?_fails.map _
  have hunique (keyTexts : List String) : FailsAsTable (do
      let uniqueTexts ← t.unique.mapM (t.setText "UNIQUE")
      pure (keyTexts ++ uniqueTexts)) :=
    (FailsAsTable.mapM (t.setText_fails "UNIQUE") t.unique).bind fun _ => .ok _
  refine hkey.bind fun key => ?_
  dsimp only
  split
  · exact hunique []
  · exact ((t.setText_fails _ _).map _).bind hunique

/-- **How the writing of a table can fail.** The length of a name is no part of it. -/
theorem createText_fails (ifAbsent : Bool) : FailsAsTable (t.createText ifAbsent) :=
  (Identifier.writtenIn_fails t.schema t.name).bind fun _ =>
    (FailsAsTable.mapM t.columnText_fails t.columns).bind fun _ =>
      t.constraintTexts_fails.bind fun _ =>
        ((FailsAsTable.mapM optionText_fails _).map _).bind fun _ => .ok _

/-! ## Refused names -/

/-- The table is refused for the length of its name. -/
def IsRefused (ifAbsent : Bool) : Prop :=
  ∃ name, (t.create ifAbsent).result = .error (.tableNameTooLong name)

variable {t}

/-- Of a table whose name is too long nothing but the name is looked at. -/
theorem create_of_too_long (ifAbsent : Bool) (h : maxTableNameLength < t.name.length) :
    t.create ifAbsent =
      ⟨.error (.tableNameTooLong (.text t.name)), [Query.refusalRecord t.name]⟩ := by
  have hcheck : Identifier.checkTableName (.text t.name) =
      ⟨.error (.tableNameTooLong (.text t.name)), [Query.refusalRecord t.name]⟩ := by
    rw [Identifier.checkTableName, Value.length?_text, String.length_toList]
    simp only [if_pos h]
    rfl
  rw [create, hcheck]
  rfl

theorem isRefused_iff (ifAbsent : Bool) :
    t.IsRefused ifAbsent ↔ maxTableNameLength < t.name.length := by
  refine ⟨?_, fun h => ⟨_, by rw [create_of_too_long ifAbsent h]⟩⟩
  rintro ⟨name, hname⟩
  rcases Nat.lt_or_ge maxTableNameLength t.name.length with hlong | hshort
  · exact hlong
  · rw [create_of_short ifAbsent ((Identifier.isShortEnough_iff t.name).mpr hshort)] at hname
    exact absurd (t.createText_fails ifAbsent _ hname) Bool.false_ne_true

end Definition

/-- Tables of a name can be created in every schema, as far as the name is concerned. -/
def AcceptsName (name : String) : Prop :=
  ∀ (t : Definition) (ifAbsent : Bool), t.name = name → ¬ t.IsRefused ifAbsent

theorem acceptsName_iff (name : String) : AcceptsName name ↔ name.length ≤ maxTableNameLength := by
  constructor
  · intro h
    have hbare : ¬ Definition.IsRefused ⟨name, none, [], List.nodup_nil, [], none, .empty⟩ false :=
      h _ false rfl
    rw [Definition.isRefused_iff] at hbare
    exact Nat.le_of_not_lt hbare
  · rintro h t ifAbsent rfl
    rw [Definition.isRefused_iff]
    exact Nat.not_lt_of_le h

end Table

namespace Query

open Table (Definition AcceptsName)

variable {zones : Zone.Lookup}

/-- A query for Doris names the table of a cube and a name of pre-aggregated rows. -/
def NamesTable (c : Context zones) (cube name : String) (skipSchema : Value) : Prop :=
  ∃ table, ((⟨.doris, c⟩ : Query zones).preAggregationTableName (.text cube) (.text name)
    skipSchema).result = .ok table

theorem namesTable_iff (c : Context zones) (cube name : String) (skipSchema : Value) :
    NamesTable c cube name skipSchema ↔
      (c.tableName (.text cube) (.text name) skipSchema).length ≤ maxTableNameLength := by
  rw [← Identifier.isShortEnough_iff]
  show (∃ table, (Identifier.checkTableName (.text _)).result = .ok table) ↔ _
  rw [Identifier.checkTableName_text]
  split <;> simp_all

theorem length_tableName (c : Context zones) {schema : String} (hschema : c.schema = .text schema)
    (cube name : String) (skipSchema : Value) :
    (c.tableName (.text cube) (.text name) skipSchema).length =
      (if skipSchema.isTrue then 0 else schema.length + 1) + (cube.length + 1 + name.length) := by
  have hunderscore : "_".length = 1 := rfl
  have hpoint : ".".length = 1 := rfl
  simp only [Context.tableName, hschema, Value.shown_text]
  split
  · simp only [String.length_append, hunderscore, Nat.zero_add]
  · simp only [String.length_append, hunderscore, hpoint, Nat.add_assoc]

/-- **How the two limits fit together.** A table is refused for its name exactly if the name is of
more than 64 characters, and then nothing else of it is looked at, and no statement noted down. A
query that leaves the schema out names exactly the tables that can be created; one that writes the
schema names no others, and leaves out those whose names are too long only with the schema. -/
theorem name_limits_fit (c : Context zones) {schema : String} (hschema : c.schema = .text schema) :
    (∀ (t : Definition) (ifAbsent : Bool),
      (t.IsRefused ifAbsent ↔ 64 < t.name.length) ∧
        (64 < t.name.length →
          t.create ifAbsent =
              ⟨.error (.tableNameTooLong (.text t.name)), [refusalRecord t.name]⟩ ∧
            ∀ text, ⟨.dialect, .debug, t.creationNote text⟩ ∉ (t.create ifAbsent).log)) ∧
      ∀ (cube name : String) (skipSchema : Value),
        (skipSchema.isTrue = true →
          (NamesTable c cube name skipSchema ↔ AcceptsName (cube ++ "_" ++ name))) ∧
          (skipSchema.isTrue = false →
            (NamesTable c cube name skipSchema → AcceptsName (cube ++ "_" ++ name)) ∧
              (AcceptsName (cube ++ "_" ++ name) ∧ ¬ NamesTable c cube name skipSchema ↔
                (63 : Int) - schema.length < cube.length + 1 + name.length ∧
                  cube.length + 1 + name.length ≤ 64)) := by
  have hlimit : maxTableNameLength = 64 := rfl
  refine ⟨fun t ifAbsent => ⟨Definition.isRefused_iff ifAbsent, fun hlong => ?_⟩, ?_⟩
  · have hcreate := Definition.create_of_too_long ifAbsent hlong
    refine ⟨hcreate, fun text => ?_⟩
    rw [hcreate]
    simp [refusalRecord]
  · intro cube name skipSchema
    have hbare : (cube ++ "_" ++ name).length = cube.length + 1 + name.length := by
      rw [String.length_append, String.length_append]
      rfl
    rw [namesTable_iff, Table.acceptsName_iff, length_tableName c hschema, hbare, hlimit]
    refine ⟨fun hskip => ?_, fun hskip => ?_⟩
    · rw [if_pos hskip, Nat.zero_add]
    · rw [if_neg (by simp [hskip])]
      omega

/-- Two names of 24 letters can be created as one table and cannot be named within the schema that a
context has if none is given. -/
theorem name_limits_of_default_schema :
    (⟨"UTC", .text "pre_aggregations", by decide⟩ : Context Zone.excerpt).schema =
        .text "pre_aggregations" ∧
      AcceptsName ("aaaaaaaaaaaaaaaaaaaaaaaa" ++ "_" ++ "bbbbbbbbbbbbbbbbbbbbbbbb") ∧
      ¬ NamesTable (⟨"UTC", .text "pre_aggregations", by decide⟩ : Context Zone.excerpt)
        "aaaaaaaaaaaaaaaaaaaaaaaa" "bbbbbbbbbbbbbbbbbbbbbbbb" (.bool false) ∧
      NamesTable (⟨"UTC", .text "pre_aggregations", by decide⟩ : Context Zone.excerpt)
        "aaaaaaaaaaaaaaaaaaaaaaaa" "bbbbbbbbbbbbbbbbbbbbbbbb" (.bool true) := by
  have hlimits := (name_limits_fit
    (⟨"UTC", .text "pre_aggregations", by decide⟩ : Context Zone.excerpt) rfl).2
    "aaaaaaaaaaaaaaaaaaaaaaaa" "bbbbbbbbbbbbbbbbbbbbbbbb"
  obtain ⟨haccepts, hrefuses⟩ := ((hlimits (.bool false)).2 rfl).2.mpr (by decide)
  exact ⟨rfl, haccepts, hrefuses, ((hlimits (.bool true)).1 rfl).mpr haccepts⟩

end Query

end SqlDialect
