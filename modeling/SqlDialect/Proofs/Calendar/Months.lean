import SqlDialect.Calendar

/-!
# Months in a row

Months are numbered through: month `k % 12 + 1` of the year `k / 12` has the number `k`, so that the
first month of the year 1 is month 12. The first days of the months then form one strictly
increasing sequence, in which leap years show in the distances only, and each day lies between two
neighbours of it.

Main statements: `firstDay_succ`, the distance of two neighbours; `firstDay_lt_firstDay`; and
`monthOfDay_bounds`, by which every day lies in its month.
-/

namespace SqlDialect.Calendar

/-- The number of a month of a year. -/
def monthNumber (year month : Nat) : Nat :=
  12 * year + (month - 1)

/-- The number of the first day of a month. -/
def firstDay (k : Nat) : Nat :=
  dayNumber (k / 12) (k % 12 + 1) 1

/-- The number of days of a month. -/
def monthLength (k : Nat) : Nat :=
  daysInMonth (k / 12) (k % 12 + 1)

theorem dayNumber_eq {year month day : Nat} (hmonth : 1 ≤ month ∧ month ≤ 12) :
    dayNumber year month day = firstDay (monthNumber year month) + (day - 1) := by
  have hyear : monthNumber year month / 12 = year := by
    rw [monthNumber]
    omega
  have hmonth : monthNumber year month % 12 + 1 = month := by
    rw [monthNumber]
    omega
  rw [firstDay, hyear, hmonth, dayNumber, dayNumber, Nat.sub_self, Nat.add_zero]

theorem daysInMonth_bounds (year month : Nat) :
    28 ≤ daysInMonth year month ∧ daysInMonth year month ≤ 31 := by
  unfold daysInMonth
  split
  · split <;> decide
  all_goals decide

theorem isLeap_iff {year : Nat} :
    isLeap year = true ↔ 4 ∣ year ∧ (¬ 100 ∣ year ∨ 400 ∣ year) := by
  simp [isLeap, Nat.dvd_iff_mod_eq_zero]

/-- A year has a day more if it is a leap year. -/
theorem daysBeforeYear_succ {year : Nat} (h : 1 ≤ year) :
    daysBeforeYear (year + 1) = daysBeforeYear year + if isLeap year then 366 else 365 := by
  obtain ⟨n, rfl⟩ : ∃ n, year = n + 1 := ⟨year - 1, by omega⟩
  have hcenturies : n / 100 ≤ n / 4 := Nat.div_le_div_left (by decide) (by decide)
  -- Each of the three quotients grows by one exactly in the years that it counts.
  rw [daysBeforeYear, daysBeforeYear, Nat.add_sub_cancel, Nat.add_sub_cancel, Nat.succ_div,
    Nat.succ_div, Nat.succ_div]
  by_cases h400 : 400 ∣ n + 1
  · have h100 : 100 ∣ n + 1 := Nat.dvd_trans (by decide) h400
    have h4 : 4 ∣ n + 1 := Nat.dvd_trans (by decide) h400
    rw [if_pos h4, if_pos h100, if_pos h400, if_pos (isLeap_iff.mpr ⟨h4, Or.inr h400⟩)]
    omega
  · by_cases h100 : 100 ∣ n + 1
    · have h4 : 4 ∣ n + 1 := Nat.dvd_trans (by decide) h100
      rw [if_pos h4, if_pos h100, if_neg h400, if_neg (by simp [isLeap_iff, h4, h100, h400])]
      omega
    · by_cases h4 : 4 ∣ n + 1
      · rw [if_pos h4, if_neg h100, if_neg h400, if_pos (isLeap_iff.mpr ⟨h4, Or.inl h100⟩)]
        omega
      · rw [if_neg h4, if_neg h100, if_neg h400, if_neg (by simp [isLeap_iff, h4])]
        omega

theorem daysBeforeMonth_succ {year month : Nat} (h : 1 ≤ month) :
    daysBeforeMonth year (month + 1) = daysBeforeMonth year month + daysInMonth year month := by
  obtain ⟨m, rfl⟩ : ∃ m, month = m + 1 := ⟨month - 1, by omega⟩
  rfl

/-- The months of a year are as long as the year. -/
theorem daysBeforeMonth_december (year : Nat) :
    daysBeforeMonth year 12 + daysInMonth year 12 = if isLeap year then 366 else 365 := by
  simp only [daysBeforeMonth, daysInMonth]
  split <;> rfl

/-- **The next month begins when a month ends**, also at the end of a year. -/
theorem firstDay_succ {k : Nat} (h : 12 ≤ k) : firstDay (k + 1) = firstDay k + monthLength k := by
  rw [firstDay, firstDay, monthLength, dayNumber, dayNumber, Nat.sub_self, Nat.add_zero,
    Nat.add_zero]
  by_cases hlast : k % 12 = 11
  -- After December comes the January of the next year.
  · have hyear : (k + 1) / 12 = k / 12 + 1 := by omega
    have hmonth : (k + 1) % 12 = 0 := by omega
    have hjanuary : daysBeforeMonth (k / 12 + 1) (0 + 1) = 0 := rfl
    have hdecember : daysBeforeMonth (k / 12) (11 + 1) + daysInMonth (k / 12) (11 + 1) =
        if isLeap (k / 12) then 366 else 365 := daysBeforeMonth_december (k / 12)
    rw [hyear, hmonth, hlast, daysBeforeYear_succ (by omega), hjanuary, ← hdecember]
    omega
  · have hyear : (k + 1) / 12 = k / 12 := by omega
    have hmonth : (k + 1) % 12 = k % 12 + 1 := by omega
    rw [hyear, hmonth, daysBeforeMonth_succ (by omega)]
    omega

/-- Later months begin later. -/
theorem firstDay_lt_firstDay {j k : Nat} (hj : 12 ≤ j) (h : j < k) : firstDay j < firstDay k := by
  induction k with
  | zero => omega
  | succ k ih =>
    have hstep := firstDay_succ (k := k) (by omega)
    have hlength := (daysInMonth_bounds (k / 12) (k % 12 + 1)).1
    rw [← monthLength] at hlength
    rcases Nat.lt_succ_iff_lt_or_eq.mp h with hlt | rfl
    · have hearlier := ih hlt
      omega
    · omega

theorem firstDay_le_firstDay {j k : Nat} (hj : 12 ≤ j) (h : j ≤ k) : firstDay j ≤ firstDay k := by
  rcases Nat.lt_or_eq_of_le h with hlt | rfl
  · exact Nat.le_of_lt (firstDay_lt_firstDay hj hlt)
  · exact Nat.le_refl _

theorem firstDay_year (year : Nat) : firstDay (12 * year) = daysBeforeYear year := by
  have hyear : 12 * year / 12 = year := by omega
  have hmonth : 12 * year % 12 + 1 = 1 := by omega
  rw [firstDay, hyear, hmonth, dayNumber]
  rfl

/-! ## The month of a day -/

/-- The last of the months `k` to `k + n` that does not begin after a day. -/
def lastMonth (k day : Nat) : Nat → Nat
  | 0 => k
  | n + 1 => if firstDay (k + n + 1) ≤ day then k + n + 1 else lastMonth k day n

/-- The month in which a day lies. -/
def monthOfDay (day : Nat) : Nat :=
  lastMonth (12 * yearOfDay day) day 11

/-- A day between the beginnings of two months lies in the month that is found for it. -/
theorem lastMonth_bounds {k day n : Nat} (hfirst : firstDay k ≤ day)
    (hlast : day < firstDay (k + n + 1)) :
    k ≤ lastMonth k day n ∧ firstDay (lastMonth k day n) ≤ day ∧
      day < firstDay (lastMonth k day n + 1) := by
  induction n with
  | zero => exact ⟨Nat.le_refl k, hfirst, hlast⟩
  | succ n ih =>
    rw [lastMonth]
    split
    · next hbegun => exact ⟨by omega, hbegun, hlast⟩
    · next hahead => exact ih (Nat.lt_of_not_le hahead)

/-- **A day lies in its month.** -/
theorem monthOfDay_bounds (day : Nat) :
    12 ≤ monthOfDay day ∧ firstDay (monthOfDay day) ≤ day ∧
      day < firstDay (monthOfDay day + 1) := by
  obtain ⟨hfirst, hlast⟩ := yearOfDay_bounds day
  have hyear : 1 ≤ yearOfDay day := by
    rcases Nat.eq_zero_or_pos (yearOfDay day) with hzero | hpos
    · rw [hzero] at hlast
      exact absurd hlast (Nat.not_lt_zero day)
    · exact hpos
  rw [← firstDay_year] at hfirst hlast
  obtain ⟨hle, hbounds⟩ := lastMonth_bounds (n := 11) hfirst hlast
  exact ⟨by rw [monthOfDay]; omega, hbounds⟩

end SqlDialect.Calendar
