import SqlDialect.Proofs.Zone.Offset
import SqlDialect.Zone.Excerpt

/-!
# Reading offsets

A written offset is taken apart again: the sign is its first character, and the colon stands between
the hours and the minutes. What is read are the whole minutes of the offset, rounded down, so an
offset of one second less than nothing is a minute behind and no offset is a minus sign before
nothing. The distance is what is divided into hours and minutes, after the rounding; that is why an
offset of a second less than a day is written with twenty-four hours when it lies behind.

Main statements: `ofText?_offsetText`, the parts of a written offset; `total?_ofMinutes`, the minutes
they stand for; and `offsetText_tells_floor`, which also says how long the text is.
-/

namespace SqlDialect.Zone

/-- The parts of a written offset. -/
structure OffsetParts where
  sign : Char
  hours : List Char
  minutes : List Char
  deriving DecidableEq

namespace OffsetParts

/-- Takes a text apart: its first character, and what stands before and behind the next colon. -/
def ofText? (text : String) : Option OffsetParts :=
  match text.toList with
  | [] => none
  | sign :: rest =>
    match rest.dropWhile (· ≠ ':') with
    | [] => none
    | _ :: minutes => some ⟨sign, rest.takeWhile (· ≠ ':'), minutes⟩

/-- A sign, at least two digits for the hours, and two digits for the minutes. -/
structure IsWellFormed (p : OffsetParts) : Prop where
  sign : p.sign = '+' ∨ p.sign = '-'
  digit_hours : ∀ c ∈ p.hours, c.isDigit = true
  length_hours : 2 ≤ p.hours.length
  digit_minutes : ∀ c ∈ p.minutes, c.isDigit = true
  length_minutes : p.minutes.length = 2

/-- The number of the hours. -/
def hour? (p : OffsetParts) : Option Nat := Text.readNatural? p.hours

/-- The number of the minutes. -/
def minute? (p : OffsetParts) : Option Nat := Text.readNatural? p.minutes

/-- The minutes in all that the parts stand for. -/
def total? (p : OffsetParts) : Option Int :=
  match p.hour?, p.minute? with
  | some h, some m => some ((if p.sign = '-' then -1 else 1) * (60 * h + m))
  | _, _ => none

/-- The parts with which a number of minutes is written. -/
def ofMinutes (minutes : Int) : OffsetParts where
  sign := if minutes < 0 then '-' else '+'
  hours := (Text.padded 2 (minutes.natAbs / 60)).toList
  minutes := (Text.padded 2 (minutes.natAbs % 60)).toList

variable (minutes : Int)

theorem hours_ofMinutes :
    (ofMinutes minutes).hours = (Text.padded 2 (minutes.natAbs / 60)).toList := by
  rw [ofMinutes]

theorem minutes_ofMinutes :
    (ofMinutes minutes).minutes = (Text.padded 2 (minutes.natAbs % 60)).toList := by
  rw [ofMinutes]

theorem sign_ofMinutes_iff : (ofMinutes minutes).sign = '-' ↔ minutes < 0 := by
  rw [ofMinutes]
  by_cases h : minutes < 0 <;> simp [h]

theorem hour?_ofMinutes : (ofMinutes minutes).hour? = some (minutes.natAbs / 60) := by
  rw [hour?, hours_ofMinutes, Text.readNatural?_padded]

theorem minute?_ofMinutes : (ofMinutes minutes).minute? = some (minutes.natAbs % 60) := by
  rw [minute?, minutes_ofMinutes, Text.readNatural?_padded]

theorem length_padded_two {n : Nat} (h : n < 100) : (Text.padded 2 n).toList.length = 2 := by
  rw [Text.toList_padded h, Text.length_lastDigits]

theorem isWellFormed_ofMinutes : (ofMinutes minutes).IsWellFormed := by
  have hbelow : minutes.natAbs % 60 < 100 := by omega
  refine ⟨?_, ?_, ?_, ?_, ?_⟩
  · by_cases h : minutes < 0
    · exact Or.inr (if_pos h)
    · exact Or.inl (if_neg h)
  · rw [hours_ofMinutes]
    exact Text.isDigit_of_mem_padded
  · rw [hours_ofMinutes]
    exact Text.le_length_padded 2 _
  · rw [minutes_ofMinutes]
    exact Text.isDigit_of_mem_padded
  · rw [minutes_ofMinutes, length_padded_two hbelow]

/-- **The parts stand for the minutes that were written.** -/
theorem total?_ofMinutes : (ofMinutes minutes).total? = some minutes := by
  rw [total?, hour?_ofMinutes, minute?_ofMinutes]
  simp only [sign_ofMinutes_iff, Option.some.injEq]
  split <;> omega

end OffsetParts

open OffsetParts

/-- The parts of a written offset are those of its minutes, rounded down. -/
theorem ofText?_offsetText (seconds : Int) :
    ofText? (offsetText seconds) = some (ofMinutes (seconds / 60)) := by
  have hbefore (n : Nat) : ∀ c ∈ (Text.padded 2 n).toList, decide (c ≠ ':') = true := by
    intro c hc
    have hne : c ≠ ':' := fun e => colon_notMem_padded 2 n (e ▸ hc)
    exact decide_eq_true hne
  rw [ofText?, toList_offsetText]
  simp only [List.dropWhile_append_of_pos (hbefore _), List.takeWhile_append_of_pos (hbefore _)]
  simp [ofMinutes]

/-- An offset of less than a day has as many characters as are needed. -/
theorem length_offsetText {seconds : Int} (h : seconds.natAbs < 86400) :
    (offsetText seconds).length = 6 := by
  have hhours : (seconds / 60).natAbs / 60 < 100 := by omega
  have hminutes : (seconds / 60).natAbs % 60 < 100 := by omega
  rw [← String.length_toList, toList_offsetText, List.length_cons, List.length_append,
    List.length_cons, length_padded_two hhours, length_padded_two hminutes]

/-- **An offset is written as its whole minutes, rounded down.** What a zone shows at an offset of so
many seconds is a sign, two or more digits of hours, a colon and two digits of minutes below sixty;
the sign is a minus exactly for what is less than nothing; the parts stand for the seconds divided by
sixty and rounded down, which is never a minus sign before nothing and tells two offsets apart
exactly if they differ in it. Less than a day either way takes six characters and no more than
twenty-four hours. -/
theorem offsetText_tells_floor (s : Int) :
    (∀ (zones : Lookup) key zone t, ofValue zones key = .ok zone → zone.offsetAt t = s →
      zone.showsTime t = true → utcOffset zones key t = .ok (offsetText s)) ∧
    (∃ p, ofText? (offsetText s) = some p ∧ p.IsWellFormed ∧ (p.sign = '-' ↔ s < 0) ∧
      (∃ m, p.minute? = some m ∧ m < 60) ∧ p.total? = some (s.fdiv 60) ∧
      (s.natAbs < 86400 → (offsetText s).length = 6 ∧ ∃ h, p.hour? = some h ∧ h ≤ 24)) ∧
    offsetText s ≠ "-00:00" ∧
    ∀ t, offsetText s = offsetText t ↔ s.fdiv 60 = t.fdiv 60 := by
  have hfloor (n : Int) : n.fdiv 60 = n / 60 := Int.fdiv_eq_ediv_of_nonneg n (by decide)
  have hsign : (ofMinutes (s / 60)).sign = '-' ↔ s < 0 := by
    rw [sign_ofMinutes_iff]
    omega
  refine ⟨?_, ⟨ofMinutes (s / 60), ofText?_offsetText s, isWellFormed_ofMinutes _, hsign, ?_, ?_, ?_⟩,
    ?_, ?_⟩
  · intro zones key zone t hzone hoffset hshows
    rw [utcOffset_eq_ok_iff]
    exact ⟨zone, hzone, by rw [offsetTextAt?_eq, if_pos hshows, hoffset]⟩
  · exact ⟨_, minute?_ofMinutes _, Nat.mod_lt _ (by decide)⟩
  · rw [total?_ofMinutes, hfloor]
  · intro hday
    exact ⟨length_offsetText hday, _, hour?_ofMinutes _, by omega⟩
  · intro hzero
    -- Read back, the text would have a minus sign and stand for nothing.
    have hread := ofText?_offsetText s
    rw [hzero] at hread
    have hparts : ofText? "-00:00" = some ⟨'-', ['0', '0'], ['0', '0']⟩ := by decide
    rw [hparts, Option.some.injEq] at hread
    have htotal := total?_ofMinutes (s / 60)
    rw [← hread] at hsign htotal
    have hnothing : total? ⟨'-', ['0', '0'], ['0', '0']⟩ = some 0 := by decide
    rw [hnothing, Option.some.injEq] at htotal
    have hneg : s < 0 := hsign.mp rfl
    omega
  · intro t
    rw [hfloor, hfloor]
    exact offsetText_eq_iff

/-- Forty-four minutes and thirty seconds behind, as the clocks of Monrovia were in 1970, are written
as forty-five minutes. -/
theorem offset_of_monrovia :
    utcOffset excerpt (.text "Africa/Monrovia") ⟨0⟩ = .ok (offsetText (-2670)) ∧
      ∃ p, ofText? (offsetText (-2670)) = some p ∧ p.sign = '-' ∧ p.total? = some (-45) ∧
        (offsetText (-2670)).length = 6 := by
  obtain ⟨hshown, ⟨p, hp, -, hsign, -, htotal, hday⟩, -, -⟩ := offsetText_tells_floor (-2670)
  have hbehind : (-2670 : Int) < 0 := by decide
  have hshort : (-2670 : Int).natAbs < 86400 := by decide
  refine ⟨?_, p, hp, hsign.mpr hbehind, htotal, (hday hshort).1⟩
  exact hshown excerpt (.text "Africa/Monrovia") Data.monrovia ⟨0⟩ (by rfl) (by decide) (by decide)

/-- A second less than a day behind is written with twenty-four hours. -/
example : offsetText (-86399) = "-24:00" := by decide

end SqlDialect.Zone
