import SqlDialect.Proofs.Template.Changes
import SqlDialect.Query.Call
import SqlDialect.Zone.Excerpt

/-!
# Two engines

A query of one engine beside a query of the other, in the same context. Most operations are the same
for both. The limit on table names can only refuse a name, never change it; the cast to a timestamp
is left out for one engine; and the templates differ by a list of changes, so that all templates
which the list does not name are the same.

Main statement: `doris_refines_mysql`.
-/

namespace SqlDialect

namespace Template.Catalog

/-- Every category that the changes write into is there already. -/
theorem isSome_category?_of_written (c : String)
    (h : dorisChanges.any (Change.writesInto c) = true) : (mysql.category? c).isSome = true := by
  have hc : c = "quotes" ∨ c = "expressions" ∨ c = "types" := by
    simpa [dorisChanges, Change.writesInto] using h
  rcases hc with rfl | rfl | rfl <;> decide +kernel

/-- The two engines have the same templates, except those that the changes name. -/
theorem render_doris_of_untouched {category name : Value}
    (h : ∀ c n, category = .text c → name = .text n →
      ∀ change ∈ dorisChanges, change.touches c n = false) (params : Parameters) :
    doris.render category name params = mysql.render category name params :=
  render_congr (lookup_withChanges_of_untouched mysql isSome_category?_of_written h) params

/-- A template that the changes remove last is missing. -/
theorem render_doris_of_removed {category name : String}
    (hthere : mysql.hasAfter dorisChanges category = true)
    (hlast : Change.last? category name dorisChanges = some (.remove category name))
    (params : Parameters) :
    (doris.render (.text category) (.text name) params).result =
      .error (.missingKey (.text name)) :=
  render_withChanges_of_removed mysql hthere hlast params

end Template.Catalog

namespace Query

open Template (Change Parameters)

variable {zones : Zone.Lookup}

/-- Whether an operation is the same for all engines. -/
def Call.isShared : Call → Bool
  | .timeGroupedColumn _ _ | .addInterval _ _ | .subtractInterval _ _ | .convertTz _
  | .dateTimeCast _ | .escapeColumnName _ | .concatStrings _ | .castToString _
  | .unixTimestamp => true
  | .timeStampCast _ | .preAggregationTableName _ _ _ | .sqlTemplates
  | .renderTemplate _ _ _ => false

/-- What is shared is carried out in the same way, down to what is noted down. -/
theorem perform_of_isShared (c : Context zones) (now : Instant) {call : Call}
    (h : call.isShared = true) :
    (⟨.doris, c⟩ : Query zones).perform now call = (⟨.mysql, c⟩ : Query zones).perform now call := by
  cases call with
  | timeStampCast v => cases h
  | preAggregationTableName cube name skipSchema => cases h
  | sqlTemplates => cases h
  | renderTemplate category name params => cases h
  | timeGroupedColumn granularity dimension => rfl
  | addInterval date interval => rfl
  | subtractInterval date interval => rfl
  | convertTz field => rfl
  | dateTimeCast v => rfl
  | escapeColumnName name => rfl
  | concatStrings strings => rfl
  | castToString sql => rfl
  | unixTimestamp => rfl

/-- **One engine refines the other.** Whatever the context, the time and the arguments are: shared
operations are the same; a table name is the same unless it is longer than the limit, and then it is
refused; a cast to a timestamp is left out, and the one that is left out is the cast to a date and
time of day; templates are the same unless the changes name them, and the two that are removed are
missing. -/
theorem doris_refines_mysql (c : Context zones) (now : Instant) :
    (∀ call : Call, call.isShared = true →
      (⟨.doris, c⟩ : Query zones).perform now call = (⟨.mysql, c⟩ : Query zones).perform now call) ∧
    (∀ cube name skipSchema, ∃ s : String,
      ((⟨.mysql, c⟩ : Query zones).perform now (.preAggregationTableName cube name skipSchema)).result =
          .ok (.text s) ∧
        ((⟨.doris, c⟩ : Query zones).perform now
            (.preAggregationTableName cube name skipSchema)).result =
          if s.length ≤ 64 then .ok (.text s) else .error (.tableNameTooLong (.text s))) ∧
    (∀ v, ((⟨.doris, c⟩ : Query zones).perform now (.timeStampCast v)).result = .ok v ∧
      ((⟨.mysql, c⟩ : Query zones).perform now (.timeStampCast v)).result =
        ((⟨.doris, c⟩ : Query zones).perform now (.dateTimeCast v)).result) ∧
    (∀ category name params,
      (∀ key entry, category = .text key → name = .text entry →
        ∀ change ∈ Template.Catalog.dorisChanges, change.touches key entry = false) →
      (⟨.doris, c⟩ : Query zones).perform now (.renderTemplate category name params) =
        (⟨.mysql, c⟩ : Query zones).perform now (.renderTemplate category name params)) ∧
    ∀ params,
      ((⟨.doris, c⟩ : Query zones).perform now
          (.renderTemplate (.text "expressions") (.text "ilike") params)).result =
        .error (.missingKey (.text "ilike")) ∧
      ((⟨.doris, c⟩ : Query zones).perform now
          (.renderTemplate (.text "types") (.text "interval") params)).result =
        .error (.missingKey (.text "interval")) := by
  refine ⟨fun call h => perform_of_isShared c now h, ?_, fun v => ⟨rfl, rfl⟩, ?_, ?_⟩
  · intro cube name skipSchema
    refine ⟨c.tableName cube name skipSchema, rfl, ?_⟩
    show (Identifier.checkTableName (.text (c.tableName cube name skipSchema))).result = _
    rw [Identifier.checkTableName_text]
    simp only [Identifier.isShortEnough_iff]
    rfl
  · intro category name params h
    show (Template.Catalog.doris.render category name params).mapResult Value.text = _
    rw [Template.Catalog.render_doris_of_untouched h]
    rfl
  · intro params
    have hmissing (category name : String)
        (h : (Template.Catalog.doris.render (.text category) (.text name) params).result =
          .error (.missingKey (.text name))) :
        ((⟨.doris, c⟩ : Query zones).perform now
          (.renderTemplate (.text category) (.text name) params)).result =
            .error (.missingKey (.text name)) := by
      show (Template.Catalog.doris.render (.text category) (.text name) params).result.map _ = _
      rw [h]
      rfl
    exact ⟨hmissing "expressions" "ilike"
        (Template.Catalog.render_doris_of_removed (by decide +kernel) (by decide +kernel) params),
      hmissing "types" "interval"
        (Template.Catalog.render_doris_of_removed (by decide +kernel) (by decide +kernel) params)⟩

/-- A template that the changes do not name, and a context to fill it in for. -/
theorem render_now_on_both_engines :
    (⟨.doris, ⟨"UTC", .null, by decide +kernel⟩⟩ : Query Zone.excerpt).perform ⟨0⟩
        (.renderTemplate (.text "functions") (.text "NOW") []) =
      (⟨.mysql, ⟨"UTC", .null, by decide +kernel⟩⟩ : Query Zone.excerpt).perform ⟨0⟩
        (.renderTemplate (.text "functions") (.text "NOW") []) := by
  obtain ⟨-, -, -, hsame, -⟩ :=
    doris_refines_mysql (⟨"UTC", .null, by decide +kernel⟩ : Context Zone.excerpt) ⟨0⟩
  refine hsame (.text "functions") (.text "NOW") [] ?_
  intro key entry hkey hentry
  cases hkey
  cases hentry
  decide +kernel

end Query

end SqlDialect
