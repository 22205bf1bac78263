import SqlDialect.Proofs.Text.Occurrence
import SqlDialect.Query.Basic
import SqlDialect.Zone.Excerpt

/-!
# Which tables share a name

The name of a table of pre-aggregated rows is put together from a cube and a name with an underscore
between them. Both may hold underscores themselves, so the same name can be put together in several
ways: whatever stands between two of its underscores can be the end of the cube or the beginning of
the name. There are no other ways. The schema in front is the same for all tables of a context, and
the limit on the length lets a name pass or refuses it but does not change it.

Main statements: `tables_shared_iff` and `tables_shared_by_moved_part`.
-/

namespace SqlDialect

namespace Query

variable {zones : Zone.Lookup}

/-- The other cube has a part behind an underscore, which stands before an underscore in the name
here. -/
def MovesPart (cube name cube' name' : String) : Prop :=
  ∃ part, cube' = cube ++ "_" ++ part ∧ name = part ++ "_" ++ name'

/-- Two pairs of a cube and a name are the same, or a part moves from the one's name to the other's
cube. -/
def SharesTable (cube name cube' name' : String) : Prop :=
  (cube = cube' ∧ name = name') ∨
    MovesPart cube name cube' name' ∨ MovesPart cube' name' cube name

/-- The parts of a name, as characters. -/
theorem exists_part_iff (cube name cube' name' : String) :
    (∃ more, cube'.toList = cube.toList ++ '_' :: more ∧ name.toList = more ++ '_' :: name'.toList) ↔
      MovesPart cube name cube' name' := by
  constructor
  · rintro ⟨more, hcube, hname⟩
    refine ⟨String.ofList more, String.toList_inj.mp ?_, String.toList_inj.mp ?_⟩
    · simp [hcube]
    · simp [hname]
  · rintro ⟨part, rfl, rfl⟩
    exact ⟨part.toList, by simp, by simp⟩

theorem joined_eq_iff (cube name cube' name' : String) :
    cube ++ "_" ++ name = cube' ++ "_" ++ name' ↔ SharesTable cube name cube' name' := by
  have hchars (cube name : String) :
      (cube ++ "_" ++ name).toList = cube.toList ++ '_' :: name.toList := by simp
  rw [← String.toList_inj, hchars, hchars, Text.append_cons_eq_append_cons_iff, String.toList_inj,
    String.toList_inj, exists_part_iff, exists_part_iff, SharesTable]

/-- Names with the same schema, or without it, are the same if what is behind it is. -/
theorem tableName_eq_iff (c : Context zones) (skipSchema : Value) (cube name cube' name' : String) :
    c.tableName (.text cube) (.text name) skipSchema =
        c.tableName (.text cube') (.text name') skipSchema ↔
      SharesTable cube name cube' name' := by
  rw [← joined_eq_iff]
  simp only [Context.tableName, Value.shown_text]
  split
  · rfl
  · exact String.append_right_inj _

/-- The limit keeps names apart, those that pass and those that are refused. -/
theorem checkTableName_inj (s t : String) :
    (Identifier.checkTableName (.text s)).result = (Identifier.checkTableName (.text t)).result ↔
      s = t := by
  refine ⟨fun h => ?_, fun h => h ▸ rfl⟩
  rw [Identifier.checkTableName_text, Identifier.checkTableName_text] at h
  split at h <;> split at h <;> cases h <;> rfl

/-- **Which tables share a name.** In one context, and with or without its schema, two pairs of a cube
and a name give the same table exactly if they are the same or a part moves from the one's name to the
other's cube. The queries of both engines give what the context gives, or refuse both for the same
name. -/
theorem tables_shared_iff (c : Context zones) (skipSchema : Value) (cube name cube' name' : String) :
    (c.tableName (.text cube) (.text name) skipSchema =
        c.tableName (.text cube') (.text name') skipSchema ↔
      SharesTable cube name cube' name') ∧
    ∀ engine : Engine,
      ((⟨engine, c⟩ : Query zones).preAggregationTableName (.text cube) (.text name) skipSchema).result =
          ((⟨engine, c⟩ : Query zones).preAggregationTableName (.text cube') (.text name')
            skipSchema).result ↔
        SharesTable cube name cube' name' := by
  have hname := tableName_eq_iff c skipSchema cube name cube' name'
  refine ⟨hname, fun engine => ?_⟩
  rw [← hname]
  cases engine with
  | mysql =>
    show Except.ok (Value.text _) = Except.ok (Value.text _) ↔ _
    simp
  | doris => exact checkTableName_inj _ _

/-- The cube `a_b` with the name `c` and the cube `a` with the name `b_c` share one table, for both
engines. -/
theorem tables_shared_by_moved_part :
    ("a_b", "c") ≠ ("a", "b_c") ∧
      (⟨"UTC", .text "pre_aggregations", by decide⟩ : Context Zone.excerpt).tableName
          (.text "a_b") (.text "c") (.bool false) =
        (⟨"UTC", .text "pre_aggregations", by decide⟩ : Context Zone.excerpt).tableName
          (.text "a") (.text "b_c") (.bool false) ∧
      ∀ engine : Engine,
        ((⟨engine, "UTC", .text "pre_aggregations", by decide⟩ :
            Query Zone.excerpt).preAggregationTableName (.text "a_b") (.text "c")
              (.bool false)).result =
          .ok (.text "pre_aggregations.a_b_c") ∧
        ((⟨engine, "UTC", .text "pre_aggregations", by decide⟩ :
            Query Zone.excerpt).preAggregationTableName (.text "a") (.text "b_c")
              (.bool false)).result =
          .ok (.text "pre_aggregations.a_b_c") := by
  refine ⟨by decide, by decide, fun engine => ?_⟩
  cases engine <;> exact ⟨rfl, rfl⟩

end Query

end SqlDialect
