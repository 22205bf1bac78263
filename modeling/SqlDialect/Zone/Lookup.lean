import SqlDialect.Zone.Basic
import SqlDialect.Zone.Key

/-!
# Looking zones up

Which zones there are is a matter of the zone data, which differ from place to place and change
with the years. All that is assumed of looking a zone up is that it is a fixed function of the key:
`Lookup` is the type of such functions, and whatever depends on zones takes one of them.
`Lookup.ofData` is how a key is looked up in zone data: what is wrong with the key itself comes
first, and only then the data are asked.
-/

namespace SqlDialect.Zone

/-- What becomes of each key: a zone, or what is wrong with the key. -/
abbrev Lookup := String → Except KeyFault Zone

/-- Looks keys up in zone data, in which keys are compared exactly. -/
def Lookup.ofData (zone? : String → Option Zone) : Lookup := fun key =>
  match checkKey key with
  | some fault => .error fault
  | none =>
    match zone? key with
    | some zone => .ok zone
    | none => .error (.unknown key)

end SqlDialect.Zone
