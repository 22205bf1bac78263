import SqlDialect.Granularity.Basic
import SqlDialect.Proofs.Calendar.Timestamp

/-!
# Where buckets start

The starts of the buckets of a granularity are singled out among the timestamps by their fields: a
week starts on a Monday, a quarter on the first of January, April, July or October. To compare
starts, the buckets of a granularity are numbered through. Up to the week a bucket is a fixed number
of microseconds long; from the month on it is a number of months, which are not of one length.

Main statements: `IsStart.le_iff_index_le`, by which a start is not later than a timestamp exactly
if its bucket is not; `isFloor_floor`, by which every timestamp has a greatest start not later than
it; and `floor_eq_floor_iff`, by which timestamps have one such start exactly if they have one
number.
-/

namespace SqlDialect.Granularity

open Clock (dayLength)

/-- Whether a bucket starts at a timestamp. -/
def IsStart : Granularity → Timestamp → Prop
  | .second, t => t.time.microsecond = 0
  | .minute, t => t.time.second = 0 ∧ t.time.microsecond = 0
  | .hour, t => t.time.minute = 0 ∧ t.time.second = 0 ∧ t.time.microsecond = 0
  | .day, t => t.time = Clock.midnight
  | .week, t => t.time = Clock.midnight ∧ Calendar.weekday t.date.number = 1
  | .month, t => t.time = Clock.midnight ∧ t.date.day = 1
  | .quarter, t => t.time = Clock.midnight ∧ t.date.day = 1 ∧ t.date.month ∈ [1, 4, 7, 10]
  | .year, t => t.time = Clock.midnight ∧ t.date.day = 1 ∧ t.date.month = 1

/-- The number of the bucket in which a timestamp lies. -/
def index : Granularity → Timestamp → Nat
  | .second, t => t.micros / 1000000
  | .minute, t => t.micros / 60000000
  | .hour, t => t.micros / 3600000000
  | .day, t => t.date.number
  | .week, t => t.date.number / 7
  | .month, t => t.date.monthNumber
  | .quarter, t => t.date.monthNumber / 3
  | .year, t => t.date.year

/-- What is meant by the start of the bucket in which a timestamp lies: the greatest start that is
not later. -/
structure IsFloor (g : Granularity) (t b : Timestamp) : Prop where
  isStart : g.IsStart b
  le : b ≤ t
  greatest : ∀ c, g.IsStart c → c ≤ t → c ≤ b

/-- The least start that is not earlier than a timestamp. -/
structure IsCeiling (g : Granularity) (t b : Timestamp) : Prop where
  isStart : g.IsStart b
  le : t ≤ b
  least : ∀ c, g.IsStart c → t ≤ c → b ≤ c

/-- A least start that is not earlier, if it is not later either, is the timestamp itself. -/
theorem IsCeiling.isFloor {g : Granularity} {t b : Timestamp} (h : g.IsCeiling t b) (hle : b ≤ t) :
    g.IsFloor t b where
  isStart := h.isStart
  le := hle
  greatest := by
    intro c _ hct
    rw [← Timestamp.le_antisymm h.le hle]
    exact hct

theorem IsCeiling.le_iff_isStart {g : Granularity} {t b : Timestamp} (h : g.IsCeiling t b) :
    b ≤ t ↔ g.IsStart t := by
  constructor
  · intro hle
    rw [Timestamp.le_antisymm h.le hle]
    exact h.isStart
  · intro hstart
    exact h.least t hstart (Nat.le_refl _)

theorem IsFloor.unique {g : Granularity} {t b c : Timestamp} (hb : g.IsFloor t b)
    (hc : g.IsFloor t c) : b = c :=
  Timestamp.le_antisymm (hc.greatest b hb.isStart hb.le) (hb.greatest c hc.isStart hc.le)

/-! ## Starts and numbers -/

/-- The first of a month is not later than a timestamp exactly if the month is not. -/
theorem firstOfMonth_le_iff {c t : Timestamp} (hc : c.time = Clock.midnight)
    (hday : c.date.day = 1) : c ≤ t ↔ c.date.monthNumber ≤ t.date.monthNumber := by
  have hnumber : c.date.number = Calendar.firstDay c.date.monthNumber := by
    rw [Date.number_eq, hday]
    rfl
  rw [Timestamp.le_iff_of_midnight hc]
  constructor
  · exact Date.monthNumber_le_of_number_le
  · intro hmonth
    have hle := Calendar.firstDay_le_firstDay c.date.monthNumber_bounds.1 hmonth
    rw [hnumber]
    exact Nat.le_trans hle t.date.number_bounds.1

/-- **Starts compare by their buckets**: one is not later than a timestamp exactly if its bucket is
not later than that of the timestamp. -/
theorem IsStart.le_iff_index_le {g : Granularity} {c t : Timestamp} (h : g.IsStart c) :
    c ≤ t ↔ g.index c ≤ g.index t := by
  have hc := And.intro c.time.minute_lt (And.intro c.time.second_lt c.time.microsecond_lt)
  -- Up to the hour the microseconds decide, up to the week the days, and from there the months.
  cases g with
  | second =>
    simp only [IsStart] at h
    rw [Timestamp.le_iff, index, index, Timestamp.micros, Clock.micros, dayLength]
    omega
  | minute =>
    simp only [IsStart] at h
    rw [Timestamp.le_iff, index, index, Timestamp.micros, Clock.micros, dayLength]
    omega
  | hour =>
    simp only [IsStart] at h
    rw [Timestamp.le_iff, index, index, Timestamp.micros, Clock.micros, dayLength]
    omega
  | day => exact Timestamp.le_iff_of_midnight h
  | week =>
    have hmonday := h.2
    rw [Calendar.weekday] at hmonday
    rw [index, index, Timestamp.le_iff_of_midnight h.1]
    omega
  | month => exact firstOfMonth_le_iff h.1 h.2
  | quarter =>
    obtain ⟨hmidnight, hday, hmonth⟩ := h
    rw [index, index, firstOfMonth_le_iff hmidnight hday, Date.monthNumber, Calendar.monthNumber]
    simp only [List.mem_cons, List.not_mem_nil, or_false] at hmonth
    omega
  | year =>
    obtain ⟨hmidnight, hday, hmonth⟩ := h
    have hbounds := t.date.month_bounds
    rw [index, index, firstOfMonth_le_iff hmidnight hday, Date.monthNumber, Date.monthNumber,
      Calendar.monthNumber, Calendar.monthNumber, hmonth]
    omega

/-- The start of a timestamp's own bucket is the greatest start that is not later. -/
theorem IsStart.isFloor {g : Granularity} {t b : Timestamp} (h : g.IsStart b)
    (hindex : g.index b = g.index t) : g.IsFloor t b where
  isStart := h
  le := h.le_iff_index_le.mpr (Nat.le_of_eq hindex)
  greatest := by
    intro c hc hct
    rw [hc.le_iff_index_le, hindex]
    exact hc.le_iff_index_le.mp hct

/-! ## The start of a bucket -/

/-- The start of the bucket in which a timestamp lies. -/
def floor : Granularity → Timestamp → Timestamp
  | .second, t =>
    ⟨t.date, { t.time with microsecond := 0, microsecond_lt := Clock.midnight.microsecond_lt }⟩
  | .minute, t =>
    ⟨t.date, ⟨t.time.hour, t.time.minute, 0, 0, t.time.hour_lt, t.time.minute_lt,
      Clock.midnight.second_lt, Clock.midnight.microsecond_lt⟩⟩
  | .hour, t =>
    ⟨t.date, ⟨t.time.hour, 0, 0, 0, t.time.hour_lt, Clock.midnight.minute_lt,
      Clock.midnight.second_lt, Clock.midnight.microsecond_lt⟩⟩
  | .day, t => t.date.midnight
  | .week, t =>
    (Date.ofNumber (7 * (t.date.number / 7))
      (Nat.lt_of_le_of_lt (Nat.mul_div_le _ _) t.date.number_lt)).midnight
  | .month, t => (Date.ofMonth t.date.monthNumber t.date.monthNumber_bounds).midnight
  | .quarter, t =>
    (Date.ofMonth (3 * (t.date.monthNumber / 3)) (by
      have hbounds := t.date.monthNumber_bounds
      omega)).midnight
  | .year, t =>
    (Date.ofMonth (12 * t.date.year) (by
      have hbounds := t.date.year_bounds
      rw [Date.monthsEnd]
      omega)).midnight

theorem isStart_floor (g : Granularity) (t : Timestamp) : g.IsStart (g.floor t) := by
  cases g with
  | second => rfl
  | minute => exact ⟨rfl, rfl⟩
  | hour => exact ⟨rfl, rfl, rfl⟩
  | day => rfl
  | week =>
    refine ⟨rfl, ?_⟩
    rw [floor, Date.midnight, Date.number_ofNumber, Calendar.weekday]
    omega
  | month => exact ⟨rfl, rfl⟩
  | quarter =>
    refine ⟨rfl, rfl, ?_⟩
    simp only [floor, Date.midnight, Date.ofMonth, List.mem_cons, List.not_mem_nil, or_false]
    omega
  | year =>
    refine ⟨rfl, rfl, ?_⟩
    simp only [floor, Date.midnight, Date.ofMonth]
    omega

theorem index_floor (g : Granularity) (t : Timestamp) : g.index (g.floor t) = g.index t := by
  have ht := And.intro t.time.minute_lt (And.intro t.time.second_lt t.time.microsecond_lt)
  cases g with
  | second =>
    simp only [index, floor, Timestamp.micros, Clock.micros, dayLength]
    omega
  | minute =>
    simp only [index, floor, Timestamp.micros, Clock.micros, dayLength]
    omega
  | hour =>
    simp only [index, floor, Timestamp.micros, Clock.micros, dayLength]
    omega
  | day => rfl
  | week =>
    simp only [index, floor, Date.midnight, Date.number_ofNumber]
    omega
  | month => exact Date.monthNumber_ofMonth _ t.date.monthNumber_bounds
  | quarter =>
    simp only [index, floor, Date.midnight, Date.monthNumber_ofMonth]
    omega
  | year =>
    simp only [index, floor, Date.midnight, Date.ofMonth]
    omega

/-- **Every timestamp has a greatest start that is not later.** -/
theorem isFloor_floor (g : Granularity) (t : Timestamp) : g.IsFloor t (g.floor t) :=
  (isStart_floor g t).isFloor (index_floor g t)

/-- Timestamps have the same start exactly if they lie in the same bucket. -/
theorem floor_eq_floor_iff {g : Granularity} {t u : Timestamp} :
    g.floor t = g.floor u ↔ g.index t = g.index u := by
  constructor
  · intro h
    rw [← index_floor g t, h, index_floor]
  · intro h
    have hstart := (isStart_floor g u).isFloor (g.index_floor u |>.trans h.symm)
    exact (isFloor_floor g t).unique hstart

/-- The start of a bucket is its own start. -/
theorem floor_floor (g : Granularity) (t : Timestamp) : g.floor (g.floor t) = g.floor t :=
  floor_eq_floor_iff.mpr (index_floor g t)

end SqlDialect.Granularity
