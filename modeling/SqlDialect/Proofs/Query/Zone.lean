import SqlDialect.Proofs.Zone.Offset
import SqlDialect.Query.Basic

/-!
# The zone of a query

A context is made only for the key of a zone, so every context has a zone. The zone and the clock
say what becomes of a field that is to be converted: it is moved to the offset in force, or there is
no offset because the zone shows no time then. The key is looked up again on the way, but what is
found is the zone that was found when the context was made.

Main statements: `Context.make_eq_error_iff`, when no context can be made, and `Query.convertTz_eq`.
-/

namespace SqlDialect

namespace Context

variable {zones : Zone.Lookup}

/-- The zone of a context. -/
def zone (c : Context zones) : Zone :=
  match h : zones c.timezone with
  | .ok zone => zone
  | .error _ => absurd c.known (by simp [h, Except.isOk, Except.toBool])

/-- The time zone of a context is the key of its zone. -/
theorem lookup_timezone (c : Context zones) : zones c.timezone = .ok c.zone := by
  rw [zone]
  split
  · next zone h => exact h
  · next fault h =>
    have hknown := c.known
    rw [h] at hknown
    cases hknown

/-- A context cannot be made exactly if looking its zone up fails, and for the same reason. -/
theorem make_eq_error_iff {timezone schema : Value} {e : Failure} :
    make zones timezone schema = .error e ↔ Zone.ofValue zones timezone = .error e := by
  rw [make, Zone.ofValue]
  cases timezone.text? with
  | none => simp
  | some key =>
    simp only
    split
    · next zone h => simp [h]
    · next fault h => simp [h]

/-- The zone that is looked up for a context is the zone of the context. -/
theorem ofValue_of_make {timezone schema : Value} {c : Context zones}
    (h : make zones timezone schema = .ok c) : Zone.ofValue zones timezone = .ok c.zone := by
  obtain ⟨hkey, -⟩ := make_eq_ok_iff.mp h
  rw [Zone.ofValue, hkey]
  simp only [c.lookup_timezone]

end Context

namespace Query

/-- **What a conversion comes to.** A field is moved to the offset that the zone of the query has
then, and the offset is noted down; if the zone shows no time then, nothing is. -/
theorem convertTz_eq {zones : Zone.Lookup} (q : Query zones) (now : Instant) (field : Value) :
    q.convertTz now field =
      if q.context.zone.showsTime now then
        ⟨.ok (Rules.convertToOffset field.shown
            (Zone.offsetText (q.context.zone.offsetAt now))),
          [⟨.mysql, .debug, "resolved offset of timezone " ++ q.timezone ++ " to " ++
            Zone.offsetText (q.context.zone.offsetAt now)⟩]⟩
      else .fail .dateOutOfRange := by
  rw [convertTz_rule, Rules.convertToZone, timezone,
    Zone.utcOffset_of_found q.context.lookup_timezone]
  cases q.context.zone.showsTime now with
  | false => rfl
  | true => simp [Outcome.note, Outcome.bind, Outcome.ok, Value.shown_text]

end Query

end SqlDialect
