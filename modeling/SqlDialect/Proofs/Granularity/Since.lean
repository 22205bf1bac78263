import SqlDialect.Proofs.Database.Meaning
import SqlDialect.Proofs.Granularity.Start

/-!
# Whole units since the reference date

Weeks and quarters are bucketed by counting the whole units from the reference date and adding them
to it again. Since the reference date starts both a week and a quarter, that leads to a start. From
the reference date on it is the greatest start that is not later. Before it the count is negative,
and because units are counted towards zero, it is the least start that is not earlier.

Main statements: `meaning_sinceReference`, what is written for the sum; and `exists_since`, what it
comes to.
-/

namespace SqlDialect

/-- The beginning of the reference date. -/
def Timestamp.reference : Timestamp :=
  Date.midnight ⟨1900, 1, 1, by decide, by decide, by decide⟩

namespace Database

open Clock (dayLength)
open Timestamp (reference)

/-- The granularity of a unit. -/
def TimeUnit.granularity : TimeUnit → Granularity
  | .week => .week
  | .quarter => .quarter

theorem iso_reference : String.ofList reference.date.iso = Granularity.referenceDate := by
  decide

theorem number_reference : reference.date.number = 693595 := by
  decide

theorem monthNumber_reference : reference.date.monthNumber = 22800 := rfl

theorem micros_reference : reference.micros = 99085 * weekLength := by
  rw [Timestamp.micros, number_reference]
  rfl

/-- The reference date starts a bucket of every granularity. -/
theorem isStart_reference (g : Granularity) : g.IsStart reference := by
  cases g with
  | second => rfl
  | minute => exact ⟨rfl, rfl⟩
  | hour => exact ⟨rfl, rfl, rfl⟩
  | day => rfl
  | week => exact ⟨rfl, by rw [number_reference, Calendar.weekday]⟩
  | month => exact ⟨rfl, rfl⟩
  | quarter => exact ⟨rfl, rfl, by decide⟩
  | year => exact ⟨rfl, rfl, rfl⟩

variable {db : Database} {row : Row}

/-- What is written for the units since the reference date adds them to it. -/
theorem meaning_sinceReference (hdb : db.IsDocumented) {date : String} {t : Timestamp}
    (h : db.time? row date = some t) (u : TimeUnit) :
    db.meaning row (Granularity.sinceReference date u.name) =
      (db.dateAdd reference (db.timestampDiff u reference t) u).map .time := by
  obtain ⟨e, he, ht⟩ := (time?_eq_some_iff db row).mp h
  have hreference : db.readTime Granularity.referenceDate = some reference := by
    rw [← iso_reference]
    exact hdb.readTime_date reference.date
  simp only [meaning, read?_sinceReference he, Option.bind_some, value, timeOf, hreference, ht,
    Option.map_some, numberOf]

/-! ## Weeks -/

theorem micros_of_isStart_week {c : Timestamp} (h : Granularity.week.IsStart c) :
    c.micros = weekLength * (c.date.number / 7) := by
  obtain ⟨hmidnight, hmonday⟩ := h
  rw [Calendar.weekday] at hmonday
  rw [Timestamp.micros, hmidnight, Clock.micros_midnight, dayLength, weekLength]
  omega

/-- From the reference date on, the whole weeks lead to the start of the week. -/
theorem dateAdd_week_of_le (hdb : db.IsDocumented) {t : Timestamp} (h : reference ≤ t) :
    db.dateAdd reference (db.timestampDiff .week reference t) .week =
      some (Granularity.week.floor t) := by
  apply hdb.dateAdd_week
  rw [Timestamp.le_iff] at h
  rw [hdb.timestampDiff_week, Int.tdiv_eq_ediv_of_nonneg (by omega),
    micros_of_isStart_week (Granularity.isStart_floor .week t)]
  have hindex : (Granularity.week.floor t).date.number / 7 = t.date.number / 7 :=
    Granularity.index_floor .week t
  have htime := t.time.micros_lt
  have hmicros : t.micros = dayLength * t.date.number + t.time.micros := rfl
  -- The reference date is a whole number of weeks, so its weeks are those of the calendar.
  rw [hindex]
  rw [micros_reference] at h ⊢
  rw [weekLength] at h ⊢
  rw [dayLength] at htime hmicros
  omega

/-- Before the reference date, the whole weeks lead to the start of a week that is not earlier, and
to the first such start. -/
theorem exists_dateAdd_week_of_lt (hdb : db.IsDocumented) {t : Timestamp} (h : t < reference) :
    ∃ b, db.dateAdd reference (db.timestampDiff .week reference t) .week = some b ∧
      Granularity.week.IsCeiling t b := by
  rw [Timestamp.lt_iff, micros_reference] at h
  -- The number of weeks from the timestamp to the reference date.
  obtain ⟨n, hn⟩ : ∃ n, n = (99085 * weekLength - t.micros) / weekLength := ⟨_, rfl⟩
  have hle : weekLength * n ≤ 99085 * weekLength - t.micros := by
    rw [hn]
    exact Nat.mul_div_le _ _
  have hlt : 99085 * weekLength - t.micros < weekLength * (n + 1) := by
    rw [hn]
    exact Nat.lt_mul_div_succ _ (by decide)
  have hday : 7 * (99085 - n) < Date.daysEnd := by
    rw [Date.daysEnd]
    omega
  obtain ⟨b, hmidnight, hnumber⟩ : ∃ b : Timestamp, b.time = Clock.midnight ∧
      b.date.number = 7 * (99085 - n) :=
    ⟨(Date.ofNumber _ hday).midnight, rfl, Date.number_ofNumber _ hday⟩
  have hstart : Granularity.week.IsStart b := by
    refine ⟨hmidnight, ?_⟩
    rw [hnumber, Calendar.weekday]
    omega
  have hb : b.micros = weekLength * (99085 - n) := by
    rw [micros_of_isStart_week hstart, hnumber, Nat.mul_div_cancel_left _ (by decide)]
  refine ⟨b, ?_, hstart, ?_, ?_⟩
  · apply hdb.dateAdd_week
    have hcount : (t.micros : Int) - reference.micros =
        -((99085 * weekLength - t.micros : Nat) : Int) := by
      rw [micros_reference]
      omega
    rw [hdb.timestampDiff_week, hcount, Int.neg_tdiv, Int.tdiv_eq_ediv_of_nonneg (by omega),
      ← Int.natCast_ediv, ← hn, hb, micros_reference]
    rw [weekLength] at hle ⊢
    omega
  · rw [Timestamp.le_iff, hb]
    rw [weekLength] at hle h ⊢
    omega
  · intro c hc htc
    rw [Timestamp.le_iff] at htc ⊢
    rw [micros_of_isStart_week hc] at htc ⊢
    rw [hb]
    rw [weekLength] at hlt htc ⊢
    omega

/-! ## Quarters -/

/-- A timestamp is not later than the first of a month exactly if its month is not, where a month
that has begun before counts as the next one. -/
theorem le_firstOfMonth_iff {c t : Timestamp} (hc : c.time = Clock.midnight)
    (hday : c.date.day = 1) :
    t ≤ c ↔ t.date.monthNumber + (if 0 < t.sinceMonth then 1 else 0) ≤ c.date.monthNumber := by
  have hmicros (t : Timestamp) :
      t.micros = dayLength * Calendar.firstDay t.date.monthNumber + t.sinceMonth := by
    rw [Timestamp.micros, Date.number_eq, Timestamp.sinceMonth, Nat.mul_add, Nat.add_assoc]
  have hfirst : c.sinceMonth = 0 := by
    rw [Timestamp.sinceMonth, hday, hc]
    rfl
  rcases Nat.lt_trichotomy c.date.monthNumber t.date.monthNumber with hlt | heq | hgt
  · have hdays := Calendar.firstDay_lt_firstDay c.date.monthNumber_bounds.1 hlt
    refine iff_of_false ?_ (by split <;> omega)
    rw [Timestamp.le_iff, hmicros t, hmicros c, dayLength]
    omega
  · rw [Timestamp.le_iff, hmicros t, hmicros c, hfirst, heq]
    split <;> omega
  · refine iff_of_true ?_ (by split <;> omega)
    rcases Nat.le_total t.micros c.micros with hle | hge
    · exact hle
    · have hmonth := (Granularity.firstOfMonth_le_iff hc hday).mp hge
      omega

/-- The quarters start with every third month. -/
theorem isStart_quarter_iff {c : Timestamp} : Granularity.quarter.IsStart c ↔
    c.time = Clock.midnight ∧ c.date.day = 1 ∧ 3 ∣ c.date.monthNumber := by
  have hbounds := c.date.month_bounds
  have hmonth : c.date.month ∈ [1, 4, 7, 10] ↔ 3 ∣ c.date.monthNumber := by
    rw [Date.monthNumber, Calendar.monthNumber]
    simp only [List.mem_cons, List.not_mem_nil, or_false]
    omega
  rw [Granularity.IsStart, hmonth]

theorem sinceMonth_reference : reference.sinceMonth = 0 := rfl

/-- From the reference date on, the whole quarters lead to the start of the quarter. -/
theorem dateAdd_quarter_of_le (hdb : db.IsDocumented) {t : Timestamp} (h : reference ≤ t) :
    db.dateAdd reference (db.timestampDiff .quarter reference t) .quarter =
      some (Granularity.quarter.floor t) := by
  have hmonth : 22800 ≤ t.date.monthNumber :=
    (Granularity.firstOfMonth_le_iff (c := reference) rfl rfl).mp h
  obtain ⟨hmidnight, hday, hfirst⟩ :=
    isStart_quarter_iff.mp (Granularity.isStart_floor .quarter t)
  have hindex : (Granularity.quarter.floor t).date.monthNumber / 3 = t.date.monthNumber / 3 :=
    Granularity.index_floor .quarter t
  refine hdb.dateAdd_quarter _ _ _ ?_ hday hmidnight
  rw [hdb.timestampDiff_quarter, Timestamp.monthsBetween, if_pos h, Timestamp.monthsUntil,
    sinceMonth_reference, if_neg (Nat.not_lt_zero _), monthNumber_reference,
    Int.tdiv_eq_ediv_of_nonneg (by omega)]
  omega

/-- Before the reference date, the whole quarters lead to the start of a quarter that is not
earlier, and to the first such start. -/
theorem exists_dateAdd_quarter_of_lt (hdb : db.IsDocumented) {t : Timestamp} (h : t < reference) :
    ∃ b, db.dateAdd reference (db.timestampDiff .quarter reference t) .quarter = some b ∧
      Granularity.quarter.IsCeiling t b := by
  have hnot : ¬ reference ≤ t := Nat.not_le_of_lt h
  -- The months that have begun before the timestamp ends.
  obtain ⟨m, hm⟩ : ∃ m, m = t.date.monthNumber + (if 0 < t.sinceMonth then 1 else 0) := ⟨_, rfl⟩
  have hmonth : 12 ≤ m ∧ m ≤ 22800 := by
    have hbefore := (le_firstOfMonth_iff (c := reference) rfl rfl).mp (Nat.le_of_lt h)
    have hbounds := t.date.monthNumber_bounds
    rw [← hm, monthNumber_reference] at hbefore
    omega
  have hend : 12 ≤ 22800 - 3 * ((22800 - m) / 3) ∧
      22800 - 3 * ((22800 - m) / 3) < Date.monthsEnd := by
    rw [Date.monthsEnd]
    omega
  obtain ⟨b, hmidnight, hday, hnumber⟩ : ∃ b : Timestamp, b.time = Clock.midnight ∧
      b.date.day = 1 ∧ b.date.monthNumber = 22800 - 3 * ((22800 - m) / 3) :=
    ⟨(Date.ofMonth _ hend).midnight, rfl, rfl, Date.monthNumber_ofMonth _ hend⟩
  refine ⟨b, ?_, isStart_quarter_iff.mpr ⟨hmidnight, hday, by omega⟩, ?_, ?_⟩
  · refine hdb.dateAdd_quarter _ _ _ ?_ hday hmidnight
    have hcount : t.monthsUntil reference = ((22800 - m : Nat) : Int) := by
      rw [Timestamp.monthsUntil, sinceMonth_reference, monthNumber_reference]
      split at hm <;> rename_i hsince
      · rw [if_pos hsince]
        omega
      · rw [if_neg hsince]
        omega
    rw [hdb.timestampDiff_quarter, Timestamp.monthsBetween, if_neg hnot, hcount, Int.neg_tdiv,
      Int.tdiv_eq_ediv_of_nonneg (by omega), hnumber, monthNumber_reference]
    omega
  · rw [le_firstOfMonth_iff hmidnight hday, ← hm, hnumber]
    omega
  · intro c hc htc
    obtain ⟨hcmidnight, hcday, hcfirst⟩ := isStart_quarter_iff.mp hc
    have hle := (le_firstOfMonth_iff hcmidnight hcday).mp htc
    rw [Granularity.firstOfMonth_le_iff hmidnight hday, hnumber]
    omega

/-- **What the units since the reference date lead to.** From the reference date on it is the
greatest start that is not later, before it the least start that is not earlier. -/
theorem exists_since (hdb : db.IsDocumented) (u : TimeUnit) (t : Timestamp) :
    ∃ b, db.dateAdd reference (db.timestampDiff u reference t) u = some b ∧
      (reference ≤ t → b = u.granularity.floor t) ∧
      (t < reference → u.granularity.IsCeiling t b) := by
  rcases Nat.lt_or_ge t.micros reference.micros with hlt | hge
  · obtain ⟨b, hb, hceiling⟩ :
        ∃ b, db.dateAdd reference (db.timestampDiff u reference t) u = some b ∧
          u.granularity.IsCeiling t b := by
      cases u with
      | week => exact exists_dateAdd_week_of_lt hdb hlt
      | quarter => exact exists_dateAdd_quarter_of_lt hdb hlt
    exact ⟨b, hb, fun hle => absurd hle (Nat.not_le_of_lt hlt), fun _ => hceiling⟩
  · have hb : db.dateAdd reference (db.timestampDiff u reference t) u =
        some (u.granularity.floor t) := by
      cases u with
      | week => exact dateAdd_week_of_le hdb hge
      | quarter => exact dateAdd_quarter_of_le hdb hge
    exact ⟨_, hb, fun _ => rfl, fun hlt => absurd hge (Nat.not_le_of_lt hlt)⟩

end Database

end SqlDialect
