import SqlDialect.Proofs.Calendar.Months

/-!
# Timestamps

A timestamp is a date of the years 1 to 9999 and a time of day in microseconds, as a database keeps
them. Both are numbered through: a date by its day, a time of day by its microseconds. The number of
a timestamp is put together from the two, and timestamps are ordered by it.

Main statements: `Date.number_injective` with `Date.number_ofNumber`, `Clock.micros_injective` with
`Clock.micros_ofMicros`, by which numbers and what they number are the same thing; and
`Timestamp.micros_injective`.
-/

namespace SqlDialect

open Calendar (daysInMonth firstDay monthLength monthOfDay)

/-! ## Dates -/

/-- A day of the years 1 to 9999. -/
@[ext]
structure Date where
  year : Nat
  month : Nat
  day : Nat
  year_bounds : 1 ≤ year ∧ year ≤ 9999
  month_bounds : 1 ≤ month ∧ month ≤ 12
  day_bounds : 1 ≤ day ∧ day ≤ daysInMonth year month
  deriving DecidableEq, Repr

namespace Date

/-- The number of the month of a date. -/
def monthNumber (d : Date) : Nat :=
  Calendar.monthNumber d.year d.month

/-- The number of a date. -/
def number (d : Date) : Nat :=
  Calendar.dayNumber d.year d.month d.day

/-- The number of the month after the last one. -/
def monthsEnd : Nat := 120000

/-- The number of the day after the last one. -/
def daysEnd : Nat := 3652059

theorem firstDay_monthsEnd : firstDay monthsEnd = daysEnd := by
  decide

theorem monthNumber_bounds (d : Date) : 12 ≤ d.monthNumber ∧ d.monthNumber < monthsEnd := by
  have hyear := d.year_bounds
  have hmonth := d.month_bounds
  rw [monthNumber, Calendar.monthNumber, monthsEnd]
  omega

theorem number_eq (d : Date) : d.number = firstDay d.monthNumber + (d.day - 1) :=
  Calendar.dayNumber_eq d.month_bounds

theorem monthNumber_div (d : Date) : d.monthNumber / 12 = d.year := by
  have hmonth := d.month_bounds
  rw [monthNumber, Calendar.monthNumber]
  omega

theorem monthNumber_mod (d : Date) : d.monthNumber % 12 + 1 = d.month := by
  have hmonth := d.month_bounds
  rw [monthNumber, Calendar.monthNumber]
  omega

/-- A month has its length also when it is known by its number. -/
theorem monthLength_monthNumber (d : Date) :
    monthLength d.monthNumber = daysInMonth d.year d.month := by
  rw [monthLength, monthNumber_div, monthNumber_mod]

/-- A date lies in its month. -/
theorem number_bounds (d : Date) :
    firstDay d.monthNumber ≤ d.number ∧ d.number < firstDay (d.monthNumber + 1) := by
  have hday := d.day_bounds
  rw [Calendar.firstDay_succ d.monthNumber_bounds.1, monthLength_monthNumber, number_eq]
  omega

theorem number_lt (d : Date) : d.number < daysEnd := by
  have hmonth := d.monthNumber_bounds
  have hlast := Calendar.firstDay_le_firstDay (j := d.monthNumber + 1) (by omega) hmonth.2
  have hbounds := d.number_bounds
  rw [firstDay_monthsEnd] at hlast
  omega

/-- A later month has later dates. -/
theorem monthNumber_le_of_number_le {c d : Date} (h : c.number ≤ d.number) :
    c.monthNumber ≤ d.monthNumber := by
  rcases Nat.lt_or_ge d.monthNumber c.monthNumber with hlt | hge
  · have hc := c.number_bounds
    have hd := d.number_bounds
    have hmonth := d.monthNumber_bounds
    have hle := Calendar.firstDay_le_firstDay (j := d.monthNumber + 1) (by omega) hlt
    omega
  · exact hge

/-- The number of a month and the day tell a date. -/
theorem eq_of_monthNumber_eq {c d : Date} (hmonth : c.monthNumber = d.monthNumber)
    (hday : c.day = d.day) : c = d := by
  have hc := c.month_bounds
  have hd := d.month_bounds
  rw [monthNumber, monthNumber, Calendar.monthNumber, Calendar.monthNumber] at hmonth
  exact Date.ext (by omega) (by omega) hday

/-- **The number tells the date.** -/
theorem number_injective {c d : Date} (h : c.number = d.number) : c = d := by
  have hmonth : c.monthNumber = d.monthNumber :=
    Nat.le_antisymm (monthNumber_le_of_number_le (Nat.le_of_eq h))
      (monthNumber_le_of_number_le (Nat.le_of_eq h.symm))
  have hday : c.day = d.day := by
    have hc := c.day_bounds
    have hd := d.day_bounds
    rw [number_eq, number_eq, hmonth] at h
    omega
  exact eq_of_monthNumber_eq hmonth hday

/-- The first date of a month. -/
def ofMonth (k : Nat) (h : 12 ≤ k ∧ k < monthsEnd) : Date where
  year := k / 12
  month := k % 12 + 1
  day := 1
  year_bounds := by
    rw [monthsEnd] at h
    omega
  month_bounds := by omega
  day_bounds := ⟨Nat.le_refl 1, Nat.le_trans (by decide) (Calendar.daysInMonth_bounds _ _).1⟩

@[simp] theorem monthNumber_ofMonth (k : Nat) (h : 12 ≤ k ∧ k < monthsEnd) :
    (ofMonth k h).monthNumber = k := by
  simp only [monthNumber, Calendar.monthNumber, ofMonth]
  omega

/-- The month of a day before the end lies before the end. -/
theorem monthOfDay_lt {n : Nat} (h : n < daysEnd) : monthOfDay n < monthsEnd := by
  obtain ⟨-, hfirst, -⟩ := Calendar.monthOfDay_bounds n
  rcases Nat.lt_or_ge (monthOfDay n) monthsEnd with hlt | hge
  · exact hlt
  · have hle := Calendar.firstDay_le_firstDay (by decide) hge
    rw [firstDay_monthsEnd] at hle
    omega

theorem monthOfDay_div_bounds {n : Nat} (h : n < daysEnd) :
    1 ≤ monthOfDay n / 12 ∧ monthOfDay n / 12 ≤ 9999 := by
  have hend := monthOfDay_lt h
  have hbounds := Calendar.monthOfDay_bounds n
  rw [monthsEnd] at hend
  omega

/-- A day does not lie behind the end of its month. -/
theorem dayOfMonth_bounds (n : Nat) :
    1 ≤ n - firstDay (monthOfDay n) + 1 ∧
      n - firstDay (monthOfDay n) + 1 ≤
        daysInMonth (monthOfDay n / 12) (monthOfDay n % 12 + 1) := by
  have hbounds := Calendar.monthOfDay_bounds n
  rw [Calendar.firstDay_succ hbounds.1, monthLength] at hbounds
  omega

/-- The date with a given number. -/
def ofNumber (n : Nat) (h : n < daysEnd) : Date where
  year := monthOfDay n / 12
  month := monthOfDay n % 12 + 1
  day := n - firstDay (monthOfDay n) + 1
  year_bounds := monthOfDay_div_bounds h
  month_bounds := by omega
  day_bounds := dayOfMonth_bounds n

@[simp] theorem number_ofNumber (n : Nat) (h : n < daysEnd) : (ofNumber n h).number = n := by
  have hbounds := Calendar.monthOfDay_bounds n
  have hmonth : (ofNumber n h).monthNumber = monthOfDay n := by
    simp only [monthNumber, Calendar.monthNumber, ofNumber]
    omega
  rw [number_eq, hmonth]
  simp only [ofNumber]
  omega

end Date

/-! ## Times of day -/

/-- A time of day. -/
@[ext]
structure Clock where
  hour : Nat
  minute : Nat
  second : Nat
  microsecond : Nat
  hour_lt : hour < 24
  minute_lt : minute < 60
  second_lt : second < 60
  microsecond_lt : microsecond < 1000000
  deriving DecidableEq, Repr

namespace Clock

/-- The microseconds of a day. -/
def dayLength : Nat := 86400000000

/-- The microseconds since midnight. -/
def micros (c : Clock) : Nat :=
  3600000000 * c.hour + 60000000 * c.minute + 1000000 * c.second + c.microsecond

/-- The beginning of a day. -/
def midnight : Clock :=
  ⟨0, 0, 0, 0, by decide, by decide, by decide, by decide⟩

@[simp] theorem micros_midnight : midnight.micros = 0 := rfl

theorem micros_lt (c : Clock) : c.micros < dayLength := by
  have hhour := c.hour_lt
  have hminute := c.minute_lt
  have hsecond := c.second_lt
  have hmicrosecond := c.microsecond_lt
  rw [micros, dayLength]
  omega

/-- The microseconds tell the time of day. -/
theorem micros_injective {c d : Clock} (h : c.micros = d.micros) : c = d := by
  have hc := And.intro c.minute_lt (And.intro c.second_lt c.microsecond_lt)
  have hd := And.intro d.minute_lt (And.intro d.second_lt d.microsecond_lt)
  rw [micros, micros] at h
  exact Clock.ext (by omega) (by omega) (by omega) (by omega)

/-- The time of day so many microseconds after midnight. -/
def ofMicros (n : Nat) (h : n < dayLength) : Clock where
  hour := n / 3600000000
  minute := n / 60000000 % 60
  second := n / 1000000 % 60
  microsecond := n % 1000000
  hour_lt := by
    rw [dayLength] at h
    omega
  minute_lt := by omega
  second_lt := by omega
  microsecond_lt := by omega

@[simp] theorem micros_ofMicros (n : Nat) (h : n < dayLength) : (ofMicros n h).micros = n := by
  simp only [micros, ofMicros]
  omega

end Clock

/-! ## Timestamps -/

/-- A date and a time of day. -/
@[ext]
structure Timestamp where
  date : Date
  time : Clock
  deriving DecidableEq, Repr

/-- The beginning of a date. -/
def Date.midnight (d : Date) : Timestamp :=
  ⟨d, Clock.midnight⟩

namespace Timestamp

open Clock (dayLength)

/-- The microseconds from the beginning of the year 1. -/
def micros (t : Timestamp) : Nat :=
  dayLength * t.date.number + t.time.micros

instance : LE Timestamp := ⟨fun s t => s.micros ≤ t.micros⟩

instance : LT Timestamp := ⟨fun s t => s.micros < t.micros⟩

theorem le_iff {s t : Timestamp} : s ≤ t ↔ s.micros ≤ t.micros := Iff.rfl

theorem lt_iff {s t : Timestamp} : s < t ↔ s.micros < t.micros := Iff.rfl

instance (s t : Timestamp) : Decidable (s ≤ t) :=
  inferInstanceAs (Decidable (s.micros ≤ t.micros))

instance (s t : Timestamp) : Decidable (s < t) :=
  inferInstanceAs (Decidable (s.micros < t.micros))

theorem micros_div_dayLength (t : Timestamp) : t.micros / dayLength = t.date.number := by
  have htime := t.time.micros_lt
  rw [micros]
  rw [dayLength] at htime ⊢
  omega

theorem micros_mod_dayLength (t : Timestamp) : t.micros % dayLength = t.time.micros := by
  have htime := t.time.micros_lt
  rw [micros]
  rw [dayLength] at htime ⊢
  omega

/-- **The microseconds tell the timestamp.** -/
theorem micros_injective {s t : Timestamp} (h : s.micros = t.micros) : s = t := by
  have hdate : s.date = t.date :=
    Date.number_injective (by rw [← micros_div_dayLength, h, micros_div_dayLength])
  have htime : s.time = t.time :=
    Clock.micros_injective (by rw [← micros_mod_dayLength, h, micros_mod_dayLength])
  exact Timestamp.ext hdate htime

theorem le_antisymm {s t : Timestamp} (hst : s ≤ t) (hts : t ≤ s) : s = t :=
  micros_injective (Nat.le_antisymm hst hts)

/-- The beginning of a date is not later than a timestamp exactly if the date is not. -/
theorem le_iff_of_midnight {s t : Timestamp} (h : s.time = Clock.midnight) :
    s ≤ t ↔ s.date.number ≤ t.date.number := by
  have htime := t.time.micros_lt
  rw [le_iff, micros, micros, h, Clock.micros_midnight]
  rw [dayLength] at htime ⊢
  omega

end Timestamp

end SqlDialect
