import SqlDialect.Failure
import SqlDialect.Zone.Lookup

/-!
# The offset of a named zone

`utcOffset` answers a key and an instant with the text of the offset in force then. The key is
checked first; only a key that names a zone is asked for a local time, which has to lie within the
years 1 to 9999.

Main statement: `utcOffset_eq_ok_iff`, which says when there is an offset.
-/

namespace SqlDialect.Zone

/-- The zone that a value names. -/
def ofValue (zones : Lookup) (key : Value) : Except Failure Zone :=
  match key.text? with
  | none => .error (.zoneKey .notText)
  | some k =>
    match zones k with
    | .ok zone => .ok zone
    | .error fault => .error (.zoneKey fault)

/-- The text of the offset that a named zone has at an instant. -/
def utcOffset (zones : Lookup) (key : Value) (t : Instant) : Except Failure String :=
  match ofValue zones key with
  | .error e => .error e
  | .ok zone =>
    match zone.offsetTextAt? t with
    | some offset => .ok offset
    | none => .error .dateOutOfRange

/-- There is an offset exactly if the key names a zone and the zone shows a time then. -/
theorem utcOffset_eq_ok_iff {zones : Lookup} {key : Value} {t : Instant} {offset : String} :
    utcOffset zones key t = .ok offset ↔
      ∃ zone, ofValue zones key = .ok zone ∧ zone.offsetTextAt? t = some offset := by
  unfold utcOffset
  cases ofValue zones key with
  | error e => simp
  | ok zone => cases h : zone.offsetTextAt? t <;> simp [h]

end SqlDialect.Zone
