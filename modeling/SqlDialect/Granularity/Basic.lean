/-!
# Time granularities

The eight units of time that a timestamp can be floored to, with the lower-case names by which
requests refer to them and the upper-case names of the members themselves.

Main statement: `ofName?_eq_some_iff`, by which reading a name accepts exactly the eight names.
-/

namespace SqlDialect

/-- A unit of time whose start a timestamp can be floored to. -/
inductive Granularity where
  | second | minute | hour | day | week | month | quarter | year
  deriving DecidableEq, Repr, Inhabited

namespace Granularity

/-- All granularities, from the finest to the coarsest. -/
def all : List Granularity :=
  [.second, .minute, .hour, .day, .week, .month, .quarter, .year]

/-- The name by which a request refers to a granularity. -/
def name : Granularity → String
  | .second => "second"
  | .minute => "minute"
  | .hour => "hour"
  | .day => "day"
  | .week => "week"
  | .month => "month"
  | .quarter => "quarter"
  | .year => "year"

/-- The name of the member itself. -/
def label : Granularity → String
  | .second => "SECOND"
  | .minute => "MINUTE"
  | .hour => "HOUR"
  | .day => "DAY"
  | .week => "WEEK"
  | .month => "MONTH"
  | .quarter => "QUARTER"
  | .year => "YEAR"

/-- The granularity a name refers to. Names are compared exactly. -/
def ofName? (s : String) : Option Granularity :=
  all.find? fun g => g.name = s

/-- The granularity whose member has the given name. -/
def ofLabel? (s : String) : Option Granularity :=
  all.find? fun g => g.label = s

theorem mem_all (g : Granularity) : g ∈ all := by
  cases g <;> decide

/-- Reading a name accepts the names of the granularities and nothing else. -/
theorem ofName?_eq_some_iff {s : String} {g : Granularity} : ofName? s = some g ↔ s = g.name := by
  constructor
  · intro h
    have := List.find?_some h
    exact (by simpa using this : g.name = s).symm
  · rintro rfl
    cases g <;> decide

end Granularity

end SqlDialect
