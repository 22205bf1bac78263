import SqlDialect.Proofs.Query.Ending
import SqlDialect.Zone.Excerpt

/-!
# Keys of zones fail when a query is made

A query can be made from options alone, from a given context, or from a given context with options
that replace its fields. All three come to the same: a field is taken from the options, else from
the given context, else it has its default, and then the zone is looked up. So a faulty key is found
when the query is made, by the check that asking for an offset makes, and never again: a query has
the zone that was found, and a conversion only fails because that zone shows no time.

Main statements: `make_eq`, by which the three routes are one, and `zoneKey_only_when_made`.
-/

namespace SqlDialect

variable {zones : Zone.Lookup}

namespace Context

/-- Whether a context has a field of that name. -/
def isField (name : String) : Bool :=
  name = "timezone" || name = "pre_aggregations_schema"

/-- What is wrong with a single option of that name. -/
def faultOfOption? (name : String) : Option ArgumentFault :=
  if isField name then none
  else if name = Arguments.receiver then some (.repeated name) else some (.unexpected name)

theorem faultOfName?_parameters (timezone schema : Value) (name : String) :
    Arguments.faultOfName? [] (parameters timezone schema) name = faultOfOption? name := by
  have hfields : ((parameters timezone schema).any fun p => p.name = name) = isField name := by
    simp [parameters, Arguments.optional, isField, eq_comm]
  rw [Arguments.faultOfName?, hfields, faultOfOption?]
  simp

/-- Options are taken if all of them name fields; what they leave open keeps its given value. -/
theorem ofOptions_eq (timezone schema : Value) (options : List (String × Value)) :
    ofOptions zones timezone schema options =
      match (Entries.keys options).findSome? faultOfOption? with
      | some fault => .error (.arguments fault)
      | none =>
        make zones ((Entries.get? "timezone" options).getD timezone)
          ((Entries.get? "pre_aggregations_schema" options).getD schema) := by
  have hfault : (options.findSome? fun option =>
      Arguments.faultOfName? [] (parameters timezone schema) option.1) =
        (Entries.keys options).findSome? faultOfOption? := by
    simp only [faultOfName?_parameters, Entries.keys, List.findSome?_map]
    rfl
  have hvalues : Arguments.bindNamed options (parameters timezone schema) =
      .ok [(Entries.get? "timezone" options).getD timezone,
        (Entries.get? "pre_aggregations_schema" options).getD schema] := by
    simp only [parameters, Arguments.optional, Arguments.bindNamed]
    cases Entries.get? "timezone" options <;>
      cases Entries.get? "pre_aggregations_schema" options <;> rfl
  rw [ofOptions, Arguments.bind]
  simp only [List.length_nil, List.take_zero, List.drop_zero, List.append_nil, Nat.not_lt_zero,
    if_false, hfault, hvalues]
  cases (Entries.keys options).findSome? faultOfOption? <;> rfl

end Context

namespace Query

/-- What is wrong with options of those names where a query is made: one of them is the name of the
query itself, or else the first one that names no field. -/
def faultOfOptions? (names : List String) : Option ArgumentFault :=
  if Arguments.receiver ∈ names then some (.repeated Arguments.receiver)
  else (names.find? fun name => !Context.isField name).map .unexpected

/-- Where none has the name of the query, the first option that names no field is refused. -/
theorem findSome?_faultOfOption? {names : List String} (h : Arguments.receiver ∉ names) :
    names.findSome? Context.faultOfOption? =
      (names.find? fun name => !Context.isField name).map .unexpected := by
  induction names with
  | nil => rfl
  | cons name rest ih =>
    obtain ⟨hname, hrest⟩ := not_or.mp (mt List.mem_cons.mpr h)
    rw [List.findSome?_cons, List.find?_cons, Context.faultOfOption?, if_neg (Ne.symm hname)]
    cases Context.isField name with
    | true => exact ih hrest
    | false => rfl

/-- Options are refused exactly if one of them names no field. -/
theorem faultOfOptions?_eq_none_iff (options : List (String × Value)) :
    faultOfOptions? (Entries.keys options) = none ↔
      (options.all fun option => Context.isField option.1) = true := by
  have hall : (options.all fun option => Context.isField option.1) = true ↔
      ∀ name ∈ Entries.keys options, Context.isField name = true := by
    rw [List.all_eq_true, Entries.keys, List.forall_mem_map]
  rw [hall, faultOfOptions?]
  split
  · next hmem => exact ⟨nofun, fun h => absurd (h Arguments.receiver hmem) (by decide)⟩
  · simp

/-- The time zone that a query is to have: from the options, else from the given context, else the
default. -/
def requestedZone (given : Option (Context zones)) (options : List (String × Value)) : Value :=
  (Entries.get? "timezone" options).getD
    (match given with
      | some c => .text c.timezone
      | none => Context.defaultTimezone)

/-- The schema that a query is to have: from the options, else from the given context, else the
default. -/
def requestedSchema (given : Option (Context zones)) (options : List (String × Value)) : Value :=
  (Entries.get? "pre_aggregations_schema" options).getD
    (match given with
      | some c => c.schema
      | none => Context.defaultSchema)

/-- **All routes are one.** However a query is made, its options are refused for the same reason, or
its context is made from the fields that are requested. -/
theorem make_eq (engine : Engine) (given : Option (Context zones))
    (options : List (String × Value)) :
    make engine given options =
      match faultOfOptions? (Entries.keys options) with
      | some fault => .error (.arguments fault)
      | none =>
        (Context.make zones (requestedZone given options) (requestedSchema given options)).map
          (⟨engine, ·⟩) := by
  have hown : (options.any fun option => option.1 = Arguments.receiver) = true ↔
      Arguments.receiver ∈ Entries.keys options := by
    simp [Entries.keys]
  unfold make
  rw [faultOfOptions?]
  by_cases h : Arguments.receiver ∈ Entries.keys options
  · rw [if_pos (hown.mpr h), if_pos h]
  · rw [if_neg (mt hown.mp h), if_neg h, ← findSome?_faultOfOption? h]
    cases given with
    | none =>
      rw [Context.create, Context.ofOptions_eq]
      cases (Entries.keys options).findSome? Context.faultOfOption? <;> rfl
    | some c =>
      cases options with
      | nil =>
        have hmade : Context.make zones (.text c.timezone) c.schema = .ok c :=
          Context.make_eq_ok_iff.mpr ⟨rfl, rfl⟩
        show _ = (Context.make zones (.text c.timezone) c.schema).map (Query.mk engine)
        rw [hmade]
        rfl
      | cons option rest =>
        show (c.replace (option :: rest)).map (Query.mk engine) = _
        rw [Context.replace, Context.ofOptions_eq]
        cases (Entries.keys (option :: rest)).findSome? Context.faultOfOption? <;> rfl

/-- Making a query fails by the key of a zone exactly if asking for an offset does, whenever. -/
theorem make_zoneKey_iff {engine : Engine} {given : Option (Context zones)}
    {options : List (String × Value)} {fault : Zone.KeyFault} (t : Instant) :
    make engine given options = .error (.zoneKey fault) ↔
      (options.all fun option => Context.isField option.1) = true ∧
        Zone.utcOffset zones (requestedZone given options) t = .error (.zoneKey fault) := by
  have hcontext :
      Zone.utcOffset zones (requestedZone given options) t = .error (.zoneKey fault) ↔
        Context.make zones (requestedZone given options) (requestedSchema given options) =
          .error (.zoneKey fault) :=
    Zone.utcOffset_zoneKey_iff.trans Context.make_eq_error_iff.symm
  rw [make_eq, hcontext, ← faultOfOptions?_eq_none_iff]
  cases faultOfOptions? (Entries.keys options) with
  | some fault => simp
  | none =>
    cases Context.make zones (requestedZone given options) (requestedSchema given options) <;>
      simp [Except.map]

/-- A query has the zone that was looked up when it was made. -/
theorem ofValue_of_make {engine : Engine} {given : Option (Context zones)}
    {options : List (String × Value)} {q : Query zones} (h : make engine given options = .ok q) :
    Zone.ofValue zones (requestedZone given options) = .ok q.context.zone := by
  rw [make_eq] at h
  split at h
  · cases h
  · cases hmade : Context.make zones (requestedZone given options)
        (requestedSchema given options) with
    | error e =>
      rw [hmade] at h
      cases h
    | ok c =>
      rw [hmade] at h
      cases h
      exact Context.ofValue_of_make hmade

/-- **The key of a zone only fails when a query is made**, whatever the lookup of zones is. Making a
context fails by the key exactly as asking for an offset does, at every instant; so does making a
query, by every route. Once a query is made it has the zone that was found, no sequence of calls fails
by the key of a zone, and a conversion succeeds unless the zone shows no time then. -/
theorem zoneKey_only_when_made (zones : Zone.Lookup) :
    (∀ (key : Value) (t : Instant) (e : Failure),
      Context.create zones [("timezone", key)] = .error e ↔
        Zone.utcOffset zones key t = .error e ∧ ∃ fault, e = .zoneKey fault) ∧
    (∀ (engine : Engine) (given : Option (Context zones)) (options : List (String × Value))
        (t : Instant) (fault : Zone.KeyFault),
      make engine given options = .error (.zoneKey fault) ↔
        (options.all fun option => Context.isField option.1) = true ∧
          Zone.utcOffset zones (requestedZone given options) t = .error (.zoneKey fault)) ∧
    ∀ (engine : Engine) (given : Option (Context zones)) (options : List (String × Value))
        (q : Query zones),
      make engine given options = .ok q →
        Zone.ofValue zones (requestedZone given options) = .ok q.context.zone ∧
        (∀ calls : List (Instant × Call), ∀ o ∈ q.performAll calls, ∀ fault,
          o.result ≠ .error (.zoneKey fault)) ∧
        ∀ (now : Instant) (field : Value),
          (q.perform now (.convertTz field)).result =
            if q.context.zone.showsTime now then
              .ok (.text (Rules.convertToOffset field.shown
                (Zone.offsetText (q.context.zone.offsetAt now))))
            else .error .dateOutOfRange := by
  refine ⟨?_, fun _ _ _ t _ => make_zoneKey_iff t, ?_⟩
  · intro key t e
    have hmake : Context.create zones [("timezone", key)] = .error e ↔
        Zone.ofValue zones key = .error e := by
      rw [Context.create, Context.ofOptions_eq]
      exact Context.make_eq_error_iff
    rw [hmake]
    constructor
    · intro h
      obtain ⟨fault, rfl⟩ := Zone.ofValue_error h
      exact ⟨Zone.utcOffset_zoneKey_iff.mpr h, fault, rfl⟩
    · rintro ⟨h, fault, rfl⟩
      exact Zone.utcOffset_zoneKey_iff.mp h
  · intro engine given options q hq
    refine ⟨ofValue_of_make hq, ?_, ?_⟩
    · intro calls o ho fault
      obtain ⟨⟨now, call⟩, -, rfl⟩ := List.mem_map.mp ho
      exact (q.perform_ends now call).ne_zoneKey fault
    · intro now field
      show ((q.convertTz now field).mapResult Value.text).result = _
      rw [convertTz_eq]
      split <;> rfl

/-- A context for one zone, overridden by a zone that is already in the year 10000 at the last
instant of the year 9999: the conversion fails, and not by the key. -/
theorem conversion_at_the_last_instant :
    ∃ q : Query Zone.excerpt, make .doris (some ⟨"UTC", .null, by decide⟩)
        [("timezone", .text "Pacific/Kiritimati")] = .ok q ∧
      (q.perform ⟨Instant.last⟩ (.convertTz (.text "t"))).result = .error .dateOutOfRange ∧
      ∀ fault, (q.perform ⟨Instant.last⟩ (.convertTz (.text "t"))).result ≠
        .error (.zoneKey fault) := by
  have hcontext : Context.make Zone.excerpt (.text "Pacific/Kiritimati") .null =
      .ok ⟨"Pacific/Kiritimati", .null, by decide +kernel⟩ :=
    Context.make_eq_ok_iff.mpr ⟨rfl, rfl⟩
  have hnone : faultOfOptions? ["timezone"] = none := by decide
  have hmake : make .doris (some (⟨"UTC", .null, by decide⟩ : Context Zone.excerpt))
      [("timezone", .text "Pacific/Kiritimati")] =
        .ok ⟨.doris, "Pacific/Kiritimati", .null, by decide +kernel⟩ := by
    rw [make_eq, Entries.keys, List.map_singleton, hnone]
    exact congrArg (Except.map _) hcontext
  obtain ⟨-, -, hmade⟩ := zoneKey_only_when_made Zone.excerpt
  obtain ⟨-, hcalls, hconvert⟩ := hmade _ _ _ _ hmake
  refine ⟨_, hmake, ?_, ?_⟩
  · rw [hconvert, if_neg (by decide +kernel)]
  · exact hcalls [(⟨Instant.last⟩, .convertTz (.text "t"))] _ List.mem_cons_self

end Query

end SqlDialect
