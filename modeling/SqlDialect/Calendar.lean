import SqlDialect.Text.Number

/-!
# The calendar and instants

Days are counted from the first of January of the year 1 in the Gregorian calendar, which is day 0
and a Monday. `Instant` is a point in time in whole seconds since the first of January 1970, UTC; a
fraction of a second is dropped, since nothing here depends on it.

Main statement: `yearOfDay_bounds`, by which the year that is found for a day holds it.
-/

namespace SqlDialect.Calendar

/-- Whether a year has a 29th of February. -/
def isLeap (year : Nat) : Bool :=
  year % 4 = 0 && (year % 100 != 0 || year % 400 = 0)

/-- The days before the first of January of a year. -/
def daysBeforeYear (year : Nat) : Nat :=
  365 * (year - 1) + (year - 1) / 4 - (year - 1) / 100 + (year - 1) / 400

/-- The number of days of a month. -/
def daysInMonth (year month : Nat) : Nat :=
  match month with
  | 2 => if isLeap year then 29 else 28
  | 4 | 6 | 9 | 11 => 30
  | _ => 31

/-- The days of a year before the first of a month. -/
def daysBeforeMonth (year : Nat) : Nat → Nat
  | 0 => 0
  | 1 => 0
  | month + 1 => daysBeforeMonth year month + daysInMonth year month

/-- The number of a day. -/
def dayNumber (year month day : Nat) : Nat :=
  daysBeforeYear year + daysBeforeMonth year month + (day - 1)

/-- The year in which a day lies: the average length of a year gives a guess that is off by one at
most. -/
def yearOfDay (day : Nat) : Nat :=
  let guess := 400 * day / 146097 + 1
  if day < daysBeforeYear guess then guess - 1
  else if daysBeforeYear (guess + 1) ≤ day then guess + 1
  else guess

/-- The day of the week of a day, Sunday being 0. -/
def weekday (day : Nat) : Nat :=
  (day + 1) % 7

/-- The day of a month on which a weekday falls for the `week`-th time; a fifth time that the month
does not have is the last one. -/
def nthWeekday (year month week weekdayWanted : Nat) : Nat :=
  let first := weekday (dayNumber year month 1)
  let day := 1 + (weekdayWanted + 7 - first) % 7 + 7 * (week - 1)
  if daysInMonth year month < day then day - 7 else day

/-- The number of the first of January 1970. -/
def epochDay : Nat := 719162

example : epochDay = dayNumber 1970 1 1 := by decide

/-- A day lies between the first of January of its year and that of the next one. -/
theorem yearOfDay_bounds (day : Nat) :
    daysBeforeYear (yearOfDay day) ≤ day ∧ day < daysBeforeYear (yearOfDay day + 1) := by
  unfold yearOfDay
  simp only
  split
  · next h => unfold daysBeforeYear at h ⊢; omega
  · split
    · next h => unfold daysBeforeYear at h ⊢; omega
    · next h h' => unfold daysBeforeYear at h h' ⊢; omega

end SqlDialect.Calendar

namespace SqlDialect

/-- A point in time: whole seconds since the start of 1970, UTC. -/
structure Instant where
  seconds : Int
  deriving DecidableEq, Repr, Inhabited

namespace Instant

/-- The first second of the year 1. -/
def first : Int := -(86400 * (Calendar.epochDay : Int))

/-- The last second of the year 9999. -/
def last : Int := 86400 * ((Calendar.daysBeforeYear 10000 : Int) - Calendar.epochDay) - 1

/-- Whether a number of seconds lies in the years 1 to 9999. -/
def inYears (seconds : Int) : Bool :=
  first ≤ seconds && seconds ≤ last

/-- The instant of a date and time of day, which a place shows whose clocks are `offset` seconds
ahead of UTC. -/
def ofLocal (year month day hour minute second : Nat) (offset : Int) : Instant :=
  ⟨86400 * ((Calendar.dayNumber year month day : Int) - Calendar.epochDay) + 3600 * hour +
    60 * minute + second - offset⟩

/-- The year of an instant, UTC. -/
def year (t : Instant) : Nat :=
  Calendar.yearOfDay ((t.seconds - first) / 86400).toNat

/-- A number of two ASCII digits. -/
def twoDigits? (a b : Char) : Option Nat :=
  if a.isDigit && b.isDigit then some (10 * (a.toNat - 48) + (b.toNat - 48)) else none

/-- Reads the distance from UTC at the end of a written instant, in seconds. -/
def readOffset? : List Char → Option Int
  | ['Z'] => some 0
  | [sign, h, k, ':', m, n] => do
    let hours ← twoDigits? h k
    let minutes ← twoDigits? m n
    let distance : Int := 3600 * hours + 60 * minutes
    if sign = '+' then some distance else if sign = '-' then some (-distance) else none
  | [sign, h, k, ':', m, n, ':', s, u] => do
    let hours ← twoDigits? h k
    let minutes ← twoDigits? m n
    let seconds ← twoDigits? s u
    let distance : Int := 3600 * hours + 60 * minutes + seconds
    if sign = '+' then some distance else if sign = '-' then some (-distance) else none
  | _ => none

/-- Drops the fraction of a second. -/
def dropFraction : List Char → List Char
  | '.' :: rest => rest.dropWhile Char.isDigit
  | rest => rest

/-- Reads an instant written as date, time of day, perhaps a fraction, and distance from UTC, such
as `2024-01-31T23:59:59.5+01:00`. -/
def ofIso? (s : String) : Option Instant :=
  match s.toList with
  | y₁ :: y₂ :: y₃ :: y₄ :: '-' :: m₁ :: m₂ :: '-' :: d₁ :: d₂ :: _ :: h₁ :: h₂ :: ':' :: i₁ ::
      i₂ :: ':' :: s₁ :: s₂ :: rest => do
    let century ← twoDigits? y₁ y₂
    let year ← twoDigits? y₃ y₄
    let month ← twoDigits? m₁ m₂
    let day ← twoDigits? d₁ d₂
    let hour ← twoDigits? h₁ h₂
    let minute ← twoDigits? i₁ i₂
    let second ← twoDigits? s₁ s₂
    let offset ← readOffset? (dropFraction rest)
    some (ofLocal (100 * century + year) month day hour minute second offset)
  | _ => none

end Instant

end SqlDialect
