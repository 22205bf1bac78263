import SqlDialect.Proofs.Text.Digits
import SqlDialect.Proofs.Text.Occurrence
import SqlDialect.Zone.Offset

/-!
# Offsets and keys of zones

A named zone has an offset at an instant unless its key is faulty or no time can be shown then, and
the key comes first: whatever the instant is, a faulty key is what the failure is about. The text of
an offset holds no more and no less than the whole minutes of the offset, rounded down: the sign is
in front, a colon stands between hours and minutes and nowhere else, and a written number tells the
number.

Main statements: `utcOffset_zoneKey_iff`, by which the instant has no part in the fault of a key;
and `offsetText_eq_iff`, by which two offsets are written alike exactly if they are the same in
whole minutes.
-/

namespace SqlDialect.Zone

/-! ## Keys -/

variable {zones : Lookup}

/-- Looking a zone up only fails by the key. -/
theorem ofValue_error {key : Value} {e : Failure} (h : ofValue zones key = .error e) :
    ∃ fault, e = .zoneKey fault := by
  rw [ofValue] at h
  split at h
  · cases h
    exact ⟨.notText, rfl⟩
  · split at h
    · cases h
    · next fault hfault =>
      cases h
      exact ⟨fault, rfl⟩

/-- **The key comes first.** Asking for an offset fails by the key exactly if looking the zone up
does, at every instant. -/
theorem utcOffset_zoneKey_iff {key : Value} {t : Instant} {fault : KeyFault} :
    utcOffset zones key t = .error (.zoneKey fault) ↔
      ofValue zones key = .error (.zoneKey fault) := by
  rw [utcOffset]
  cases ofValue zones key with
  | error e => simp
  | ok zone => cases hoffset : zone.offsetTextAt? t <;> simp [hoffset]

/-! ## Times that a zone shows -/

/-- Whether an instant, and the time that the zone shows then, lie in the years 1 to 9999. -/
def showsTime (zone : Zone) (t : Instant) : Bool :=
  Instant.inYears t.seconds && Instant.inYears (t.seconds + zone.offsetAt t)

theorem offsetTextAt?_eq (zone : Zone) (t : Instant) :
    zone.offsetTextAt? t =
      if zone.showsTime t then some (offsetText (zone.offsetAt t)) else none := rfl

/-- A zone that is found has an offset exactly if it shows a time. -/
theorem utcOffset_of_found {key : String} {zone : Zone} (h : zones key = .ok zone) (t : Instant) :
    utcOffset zones (.text key) t =
      if zone.showsTime t then .ok (offsetText (zone.offsetAt t)) else .error .dateOutOfRange := by
  have hzone : ofValue zones (.text key) = .ok zone := by
    rw [ofValue, Value.text?_text]
    simp only [h]
  rw [utcOffset, hzone]
  simp only [offsetTextAt?_eq]
  cases zone.showsTime t <;> rfl

/-! ## The text of an offset -/

/-- The characters of an offset: the sign, the hours, a colon and the minutes. -/
theorem toList_offsetText (seconds : Int) :
    (offsetText seconds).toList =
      (if seconds / 60 < 0 then '-' else '+') ::
        ((Text.padded 2 ((seconds / 60).natAbs / 60)).toList ++
          ':' :: (Text.padded 2 ((seconds / 60).natAbs % 60)).toList) := by
  rw [offsetText]
  split <;> simp

theorem colon_notMem_padded (width n : Nat) : ':' ∉ (Text.padded width n).toList := fun h =>
  absurd (Text.isDigit_of_mem_padded _ h) (by decide)

/-- **An offset is written in whole minutes.** Two offsets are written alike exactly if they are the
same when they are rounded down to minutes. -/
theorem offsetText_eq_iff {s t : Int} : offsetText s = offsetText t ↔ s / 60 = t / 60 := by
  constructor
  · intro h
    have hchars := congrArg String.toList h
    rw [toList_offsetText, toList_offsetText] at hchars
    obtain ⟨hsign, hrest⟩ := List.cons.inj hchars
    obtain ⟨hhours, hminutes⟩ := Text.eq_of_append_cons_eq (colon_notMem_padded 2 _)
      (colon_notMem_padded 2 _) hrest
    have hhours := Text.padded_injective (String.toList_inj.mp hhours)
    have hminutes := Text.padded_injective (String.toList_inj.mp hminutes)
    have hsame : s / 60 < 0 ↔ t / 60 < 0 := by
      by_cases hs : s / 60 < 0 <;> by_cases ht : t / 60 < 0 <;> simp [hs, ht] at hsign ⊢
    omega
  · intro h
    rw [offsetText, offsetText, h]

end SqlDialect.Zone
