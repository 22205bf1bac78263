import SqlDialect.Proofs.Keyed.Writing
import SqlDialect.Proofs.Query.ZoneKeys
import SqlDialect.Query.Call
import SqlDialect.Zone.Excerpt

/-!
# Overriding a context is making it afresh

A query that is made from a given context and options is the query that is made from options alone,
namely from the fields of the context with the options written over them. That holds of failures as
well. An option that names no field is refused on both ways, and the same one is named, since the
fields of the context are none of those and come before the options; and the zone is looked up in the
end on both ways, even where the given context is taken as it is and has been looked up before.

The given context is not touched by that, nor by anything else that is done with contexts: what is
done is followed over all contexts that are there, where queries are made from any of them and fields
of any of them are to be assigned. One deed leaves each of them as it is (`prefix_apply`), hence so do
all deeds.

Main statement: `overriding_is_making_afresh`.
-/

namespace SqlDialect

variable {zones : Zone.Lookup}

/-! ## The fields of a context as options -/

namespace Context

/-- The options that give a context its fields. -/
def asOptions (c : Context zones) : Keyed Value :=
  (Keyed.empty.insert "timezone" (.text c.timezone)).insert "pre_aggregations_schema" c.schema

/-- The fields of a context as options, with other options written over them. -/
def overriddenBy (c : Context zones) (options : Keyed Value) : Keyed Value :=
  c.asOptions.insertAll options.entries

variable (c : Context zones) (options : Keyed Value)

theorem keys_asOptions : c.asOptions.keys = ["timezone", "pre_aggregations_schema"] := rfl

theorem get?_timezone_overriddenBy :
    (c.overriddenBy options).get? "timezone" =
      some ((options.get? "timezone").getD (.text c.timezone)) := by
  rw [overriddenBy, Keyed.get?_insertAll]
  cases options.get? "timezone" <;> rfl

theorem get?_schema_overriddenBy :
    (c.overriddenBy options).get? "pre_aggregations_schema" =
      some ((options.get? "pre_aggregations_schema").getD c.schema) := by
  rw [overriddenBy, Keyed.get?_insertAll]
  cases options.get? "pre_aggregations_schema" <;> rfl

/-- The fields of a context do not come first among options that name no field. -/
theorem find?_overriddenBy :
    ((c.overriddenBy options).keys.find? fun key => !isField key) =
      options.keys.find? fun key => !isField key := by
  rw [overriddenBy, Keyed.find?_keys_insertAll]
  rfl

/-- What is wrong with the options is wrong with the fields that they are written over. -/
theorem faultOfOptions?_overriddenBy :
    Query.faultOfOptions? (c.overriddenBy options).keys = Query.faultOfOptions? options.keys := by
  have hown : Arguments.receiver ∈ (c.overriddenBy options).keys ↔
      Arguments.receiver ∈ options.keys := by
    rw [overriddenBy, Keyed.mem_keys_insertAll]
    exact or_iff_left (by rw [keys_asOptions]; decide)
  rw [Query.faultOfOptions?, Query.faultOfOptions?, find?_overriddenBy]
  simp only [hown]

end Context

/-! ## Queries -/

namespace Query

theorem make_overriddenBy (engine : Engine) (c : Context zones) (options : Keyed Value) :
    make engine (none : Option (Context zones)) (c.overriddenBy options).entries =
      make engine (some c) options.entries := by
  have hfault : faultOfOptions? (Entries.keys (c.overriddenBy options).entries) =
      faultOfOptions? (Entries.keys options.entries) := c.faultOfOptions?_overriddenBy options
  have hzone : requestedZone (none : Option (Context zones)) (c.overriddenBy options).entries =
      requestedZone (some c) options.entries := by
    have hget := c.get?_timezone_overriddenBy options
    rw [Keyed.get?] at hget
    unfold requestedZone
    rw [hget]
    rfl
  have hschema : requestedSchema (none : Option (Context zones)) (c.overriddenBy options).entries =
      requestedSchema (some c) options.entries := by
    have hget := c.get?_schema_overriddenBy options
    rw [Keyed.get?] at hget
    unfold requestedSchema
    rw [hget]
    rfl
  rw [make_eq, make_eq, hfault, hzone, hschema]

/-! ## What is done with contexts -/

/-- Something that is done with the contexts that are there, each of which has a number. -/
inductive Deed where
  /-- A query is made, perhaps from a context that is there. -/
  | make (engine : Engine) (source : Option Nat) (options : Keyed Value)
  /-- A field of a context that is there is to be assigned. -/
  | assign (engine : Engine) (source : Nat) (field : String) (value : Value)

/-- The contexts after something is done. A query that is made has a context of its own, unless it
keeps the given one; and an assignment that is possible changes the context. -/
def Deed.apply (contexts : List (Context zones)) : Deed → List (Context zones)
  | .make engine source options =>
    let given := source.bind (contexts[·]?)
    match Query.make engine given options.entries with
    | .ok q => if keepsContext given options.entries then contexts else contexts ++ [q.context]
    | .error _ => contexts
  | .assign engine source field value =>
    match contexts[source]? with
    | none => contexts
    | some c =>
      match setField ⟨engine, c⟩ field value with
      | .ok q => contexts.set source q.context
      | .error _ => contexts

/-- The contexts after a sequence of deeds. -/
def contextsAfter (contexts : List (Context zones)) (deeds : List Deed) : List (Context zones) :=
  deeds.foldl Deed.apply contexts

/-- **One deed.** It leaves the contexts that are there as they are, and adds one at most. -/
theorem prefix_apply (contexts : List (Context zones)) (deed : Deed) :
    contexts <+: deed.apply contexts := by
  cases deed with
  | make engine source options =>
    simp only [Deed.apply]
    split
    · split
      · exact List.prefix_rfl
      · exact List.prefix_append _ _
    · exact List.prefix_rfl
  | assign engine source field value =>
    simp only [Deed.apply]
    -- No assignment is possible, so the case of a changed context does not arise.
    split <;> exact List.prefix_rfl

theorem prefix_contextsAfter (contexts : List (Context zones)) (deeds : List Deed) :
    contexts <+: contextsAfter contexts deeds := by
  induction deeds generalizing contexts with
  | nil => exact List.prefix_rfl
  | cons deed rest ih => exact (prefix_apply contexts deed).trans (ih (deed.apply contexts))

/-- A context that is there is still there, under its number. -/
theorem getElem?_contextsAfter {contexts : List (Context zones)} {i : Nat} {c : Context zones}
    (h : contexts[i]? = some c) (deeds : List Deed) : (contextsAfter contexts deeds)[i]? = some c := by
  obtain ⟨added, hadded⟩ := prefix_contextsAfter contexts deeds
  obtain ⟨hlt, -⟩ := List.getElem?_eq_some_iff.mp h
  rw [← hadded, List.getElem?_append_left hlt, h]

/-- **Overriding is making afresh**, whatever the lookup of zones is. A query from a given context and
options comes out as the query from the fields of the context with the options written over them: the
same query, which does the same in all calls at all times, or the same failure, which names the same
option if one is refused. And a context that is there stays as it is, whatever queries are made from
it and from others, and whatever fields are to be assigned. -/
theorem overriding_is_making_afresh (zones : Zone.Lookup) (engine : Engine) (c : Context zones)
    (options : Keyed Value) :
    make engine (some c) options.entries =
      make engine (none : Option (Context zones)) (c.overriddenBy options).entries ∧
    (∀ calls : List (Instant × Call),
      (make engine (some c) options.entries).map (fun q => q.performAll calls) =
        (make engine (none : Option (Context zones)) (c.overriddenBy options).entries).map
          fun q => q.performAll calls) ∧
    ∀ (contexts : List (Context zones)) (i : Nat), contexts[i]? = some c → ∀ deeds : List Deed,
      (contextsAfter contexts deeds)[i]? = some c := by
  have hmake := make_overriddenBy engine c options
  refine ⟨hmake.symm, fun calls => by rw [hmake], ?_⟩
  intro contexts i hi deeds
  exact getElem?_contextsAfter hi deeds

/-- An unknown option beside a zone that does not exist is refused in the same way, by its name, and
the context stays, also when its zone is to be assigned then. -/
theorem overriding_with_two_faults :
    let c : Context Zone.excerpt := ⟨"UTC", .text "reports", by decide⟩
    let options : Keyed Value := (Keyed.empty.insert "timezone" (.text "Mars/X")).insert "cube" .null
    make .doris (none : Option (Context Zone.excerpt)) (c.overriddenBy options).entries =
        .error (.arguments (.unexpected "cube")) ∧
      make .doris (some c) options.entries = .error (.arguments (.unexpected "cube")) ∧
      [c][0]? = some c ∧
      (contextsAfter [c] [.make .doris (some 0) options,
        .assign .doris 0 "timezone" (.text "Mars/X")])[0]? = some c := by
  intro c options
  obtain ⟨hmake, -, hkept⟩ := overriding_is_making_afresh Zone.excerpt .doris c options
  have hrefused : make .doris (some c) options.entries = .error (.arguments (.unexpected "cube")) := by
    rw [make_eq]
    rfl
  exact ⟨hmake.symm.trans hrefused, hrefused, rfl, hkept [c] 0 rfl _⟩

end Query

end SqlDialect
