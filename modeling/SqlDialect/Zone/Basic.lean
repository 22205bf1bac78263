import SqlDialect.Calendar

/-!
# Time zones

A time zone is a history of offsets from UTC: one before the first change, one from each change on,
and perhaps a daylight rule that goes on where the list of changes ends. `Zone.offsetAt` looks an
instant up. `Zone.offsetText` writes an offset as a sign, hours and minutes; the minutes are rounded
down before the sign is taken, so an offset of half a minute less than nothing is `-00:01`.
-/

namespace SqlDialect

/-- A day on which clocks change every year, as the weekday of a week of a month, with the time of
day in seconds. -/
structure YearlyChange where
  month : Nat
  week : Nat
  weekday : Nat
  time : Int
  deriving DecidableEq, Repr, Inhabited

/-- The yearly change between two offsets: `standard` holds until `starts` in local time, then
`daylight` until `ends`. The start may lie later in the year than the end. -/
structure DaylightRule where
  standard : Int
  daylight : Int
  starts : YearlyChange
  ends : YearlyChange
  deriving DecidableEq, Repr, Inhabited

/-- A time zone: offsets in seconds east of UTC, changes in order of time. -/
structure Zone where
  initial : Int
  changes : List (Int × Int)
  rule : Option DaylightRule
  deriving DecidableEq, Repr, Inhabited

namespace YearlyChange

/-- The second of a year's change in local time, counted from the start of 1970. -/
def inYear (change : YearlyChange) (year : Nat) : Int :=
  let day := Calendar.nthWeekday year change.month change.week change.weekday
  86400 * ((Calendar.dayNumber year change.month day : Int) - Calendar.epochDay) + change.time

end YearlyChange

namespace DaylightRule

/-- Whether daylight time is in force. Each boundary is read in the time in force before it. -/
def inDaylight (rule : DaylightRule) (t : Instant) : Bool :=
  let starts := rule.starts.inYear t.year - rule.standard
  let ends := rule.ends.inYear t.year - rule.daylight
  if starts < ends then starts ≤ t.seconds && t.seconds < ends
  else !(ends ≤ t.seconds && t.seconds < starts)

/-- The offset at an instant by the rule alone. -/
def offsetAt (rule : DaylightRule) (t : Instant) : Int :=
  if rule.inDaylight t then rule.daylight else rule.standard

end DaylightRule

namespace Zone

/-- An offset of that many seconds behind UTC. -/
def west (seconds : Nat) : Int := -seconds

/-- The second that many seconds before the start of 1970. -/
def before (seconds : Nat) : Int := -seconds

/-- A zone whose clocks have always shown the same distance from UTC. -/
def fixed (offset : Int) : Zone := ⟨offset, [], none⟩

/-- The offset of the last change that is not later than an instant. -/
def listedOffset (zone : Zone) (t : Instant) : Int :=
  zone.changes.foldl (fun offset change => if change.1 ≤ t.seconds then change.2 else offset)
    zone.initial

/-- Whether an instant lies behind the last change of the list. -/
def isBeyondList (zone : Zone) (t : Instant) : Bool :=
  match zone.changes.getLast? with
  | some change => change.1 < t.seconds
  | none => true

/-- The offset in force at an instant, in seconds east of UTC. -/
def offsetAt (zone : Zone) (t : Instant) : Int :=
  match zone.rule with
  | some rule => if zone.isBeyondList t then rule.offsetAt t else zone.listedOffset t
  | none => zone.listedOffset t

/-- An offset as a sign, hours and minutes. -/
def offsetText (seconds : Int) : String :=
  let minutes := seconds / 60
  let sign := if minutes < 0 then "-" else "+"
  let distance := minutes.natAbs
  sign ++ Text.padded 2 (distance / 60) ++ ":" ++ Text.padded 2 (distance % 60)

/-- The text of the offset in force at an instant. There is none if the instant, or the time that
the place shows then, lies outside the years 1 to 9999. -/
def offsetTextAt? (zone : Zone) (t : Instant) : Option String :=
  let offset := zone.offsetAt t
  if Instant.inYears t.seconds && Instant.inYears (t.seconds + offset) then some (offsetText offset)
  else none

end Zone

end SqlDialect
