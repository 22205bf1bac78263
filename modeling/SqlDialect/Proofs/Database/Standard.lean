import SqlDialect.Proofs.Database.Meaning
import SqlDialect.Proofs.Text.Digits

/-!
# A database as documented

`standard` is a database that can be computed with: its functions do what is documented of them, and
also something definite where nothing is documented that the written SQL relies on. A sum that
leaves the years 1 to 9999 is missing, a day that a month does not have becomes its last one, and a
pattern with other letters stays as it is.

Main statement: `standard_isDocumented`.
-/

namespace SqlDialect

open Instant (twoDigits?)
open Clock (dayLength)

/-! ## Reading dates and times -/

/-- The date with given fields, if there is one. -/
def Date.ofFields? (year month day : Nat) : Option Date :=
  if h : (1 ≤ year ∧ year ≤ 9999) ∧ (1 ≤ month ∧ month ≤ 12) ∧
      1 ≤ day ∧ day ≤ Calendar.daysInMonth year month then
    some ⟨year, month, day, h.1, h.2.1, h.2.2⟩
  else none

/-- The time of day with given fields, if there is one. -/
def Clock.ofFields? (hour minute second microsecond : Nat) : Option Clock :=
  if h : hour < 24 ∧ minute < 60 ∧ second < 60 ∧ microsecond < 1000000 then
    some ⟨hour, minute, second, microsecond, h.1, h.2.1, h.2.2.1, h.2.2.2⟩
  else none

theorem Date.ofFields?_self (d : Date) : ofFields? d.year d.month d.day = some d :=
  dif_pos ⟨d.year_bounds, d.month_bounds, d.day_bounds⟩

theorem Clock.ofFields?_self (c : Clock) :
    ofFields? c.hour c.minute c.second c.microsecond = some c :=
  dif_pos ⟨c.hour_lt, c.minute_lt, c.second_lt, c.microsecond_lt⟩

/-- Reads a date written as `YYYY-MM-DD`. -/
def Date.read? : List Char → Option Date
  | [y₁, y₂, y₃, y₄, '-', m₁, m₂, '-', d₁, d₂] => do
    let century ← twoDigits? y₁ y₂
    let year ← twoDigits? y₃ y₄
    let month ← twoDigits? m₁ m₂
    let day ← twoDigits? d₁ d₂
    ofFields? (100 * century + year) month day
  | _ => none

/-- Reads a time of day written as `HH:MM:SS`, perhaps with milliseconds. -/
def Clock.read? : List Char → Option Clock
  | [h₁, h₂, ':', i₁, i₂, ':', s₁, s₂] => do
    let hour ← twoDigits? h₁ h₂
    let minute ← twoDigits? i₁ i₂
    let second ← twoDigits? s₁ s₂
    ofFields? hour minute second 0
  | [h₁, h₂, ':', i₁, i₂, ':', s₁, s₂, '.', u₁, u₂, u₃] => do
    let hour ← twoDigits? h₁ h₂
    let minute ← twoDigits? i₁ i₂
    let second ← twoDigits? s₁ s₂
    let tens ← twoDigits? u₁ u₂
    let ones ← twoDigits? '0' u₃
    ofFields? hour minute second (1000 * (10 * tens + ones))
  | _ => none

/-- Reads a date, or a date and a time of day with any character between them. -/
def Timestamp.read? (s : List Char) : Option Timestamp :=
  match s.drop 10 with
  | [] => (Date.read? s).map Date.midnight
  | _ :: rest => (Date.read? (s.take 10)).bind fun d => (Clock.read? rest).map fun c => ⟨d, c⟩

theorem twoDigits?_digitChar {a b : Nat} (ha : a < 10) (hb : b < 10) :
    twoDigits? (Text.digitChar a) (Text.digitChar b) = some (10 * a + b) := by
  have hall : ∀ a < 10, ∀ b < 10,
      twoDigits? (Text.digitChar a) (Text.digitChar b) = some (10 * a + b) := by
    decide
  exact hall a ha b hb

/-- A number below a hundred is written with two digits, which are read back. -/
theorem padded_two {n : Nat} (h : n < 100) :
    ∃ a b, (Text.padded 2 n).toList = [a, b] ∧ twoDigits? a b = some n := by
  refine ⟨Text.digitChar (n / 10 % 10), Text.digitChar (n % 10), Text.toList_padded h, ?_⟩
  rw [twoDigits?_digitChar (by omega) (by omega)]
  exact congrArg some (by omega)

/-- A number below ten thousand is written with four digits, which are read back two by two. -/
theorem padded_four {n : Nat} (h : n < 10000) :
    ∃ a b c d, (Text.padded 4 n).toList = [a, b, c, d] ∧ twoDigits? a b = some (n / 100) ∧
      twoDigits? c d = some (n % 100) := by
  refine ⟨Text.digitChar (n / 10 / 10 / 10 % 10), Text.digitChar (n / 10 / 10 % 10),
    Text.digitChar (n / 10 % 10), Text.digitChar (n % 10), Text.toList_padded h, ?_, ?_⟩
  · rw [twoDigits?_digitChar (by omega) (by omega)]
    exact congrArg some (by omega)
  · rw [twoDigits?_digitChar (by omega) (by omega)]
    exact congrArg some (by omega)

theorem Date.read?_iso (d : Date) : Date.read? d.iso = some d := by
  have hyear := d.year_bounds
  have hmonth := d.month_bounds
  have hday := d.day_bounds
  have hlength := Calendar.daysInMonth_bounds d.year d.month
  obtain ⟨y₁, y₂, y₃, y₄, hy, hcentury, hrest⟩ := padded_four (n := d.year) (by omega)
  obtain ⟨m₁, m₂, hm, hmonth⟩ := padded_two (n := d.month) (by omega)
  obtain ⟨d₁, d₂, hd, hday⟩ := padded_two (n := d.day) (by omega)
  rw [Date.iso, hy, hm, hd]
  simp only [List.cons_append, List.nil_append, Date.read?, hcentury, hrest, hmonth, hday,
    Option.bind_eq_bind, Option.bind_some]
  rw [show 100 * (d.year / 100) + d.year % 100 = d.year by omega]
  exact Date.ofFields?_self d

theorem Clock.read?_iso {c : Clock} (h : c.microsecond = 0) : Clock.read? c.iso = some c := by
  have hhour := c.hour_lt
  have hminute := c.minute_lt
  have hsecond := c.second_lt
  obtain ⟨h₁, h₂, hh, hhour⟩ := padded_two (n := c.hour) (by omega)
  obtain ⟨i₁, i₂, hi, hminute⟩ := padded_two (n := c.minute) (by omega)
  obtain ⟨s₁, s₂, hs, hsecond⟩ := padded_two (n := c.second) (by omega)
  have hfraction : twoDigits? '0' '0' = some 0 := by decide
  have hself := c.ofFields?_self
  rw [h] at hself
  rw [Clock.iso, hh, hi, hs]
  simp only [List.cons_append, List.nil_append, Clock.read?, hhour, hminute, hsecond, hfraction,
    Option.bind_eq_bind, Option.bind_some, Nat.mul_zero, Nat.add_zero, hself]

namespace Timestamp

theorem length_iso_date (d : Date) : d.iso.length = 10 := by
  have hyear := d.year_bounds
  have hmonth := d.month_bounds
  have hday := d.day_bounds
  have hlength := Calendar.daysInMonth_bounds d.year d.month
  obtain ⟨y₁, y₂, y₃, y₄, hy, -⟩ := padded_four (n := d.year) (by omega)
  obtain ⟨m₁, m₂, hm, -⟩ := padded_two (n := d.month) (by omega)
  obtain ⟨d₁, d₂, hd, -⟩ := padded_two (n := d.day) (by omega)
  rw [Date.iso, hy, hm, hd]
  rfl

theorem read?_iso_date (d : Date) : read? d.iso = some d.midnight := by
  rw [read?, List.drop_of_length_le (Nat.le_of_eq (length_iso_date d)), Date.read?_iso]
  rfl

theorem read?_iso {t : Timestamp} (h : t.time.microsecond = 0) : read? t.iso = some t := by
  have hlength := length_iso_date t.date
  simp only [read?, iso, List.drop_left' hlength, List.take_left' hlength, Date.read?_iso,
    Clock.read?_iso h, Option.bind_some, Option.map_some]

/-! ## Sums -/

/-- The timestamp with a given number, if there is one. -/
def ofMicros? (n : Int) : Option Timestamp :=
  if h : n.toNat / dayLength < Date.daysEnd ∧ 0 ≤ n then
    some ⟨Date.ofNumber (n.toNat / dayLength) h.1,
      Clock.ofMicros (n.toNat % dayLength) (Nat.mod_lt _ (by decide))⟩
  else none

theorem ofMicros?_micros (t : Timestamp) : ofMicros? t.micros = some t := by
  have hday : t.micros / dayLength < Date.daysEnd := by
    rw [micros_div_dayLength]
    exact t.date.number_lt
  rw [ofMicros?, dif_pos ⟨hday, Int.natCast_nonneg _⟩]
  -- The timestamp that is put together has the same number.
  refine congrArg some (micros_injective ?_)
  rw [micros, Date.number_ofNumber, Clock.micros_ofMicros]
  exact Nat.div_add_mod _ _

/-- A timestamp some months later, on the last day of the month if the month is too short. -/
def addMonths? (t : Timestamp) (n : Int) : Option Timestamp :=
  (Date.ofFields? ((t.date.monthNumber + n).toNat / 12) ((t.date.monthNumber + n).toNat % 12 + 1)
    (min t.date.day (Calendar.monthLength (t.date.monthNumber + n).toNat))).map (⟨·, t.time⟩)

theorem addMonths?_eq {s t : Timestamp} {n : Int}
    (hmonth : (t.date.monthNumber : Int) = s.date.monthNumber + n)
    (hday : t.date.day = s.date.day) (htime : t.time = s.time) : s.addMonths? n = some t := by
  have hfits := t.date.day_bounds.2
  rw [addMonths?, ← hmonth, Int.toNat_natCast, Date.monthNumber_div, Date.monthNumber_mod,
    Date.monthLength_monthNumber, ← hday, Nat.min_eq_left hfits, Date.ofFields?_self, ← htime]
  rfl

end Timestamp

namespace Database

/-- A database that does what is documented. -/
def standard : Database where
  dateFormat t pattern :=
    match t.formatted? pattern.toList with
    | some s => String.ofList s
    | none => pattern
  dateAdd t n unit :=
    match unit with
    | .week => Timestamp.ofMicros? (t.micros + n * weekLength)
    | .quarter => t.addMonths? (3 * n)
  timestampDiff unit s t :=
    match unit with
    | .week => ((t.micros : Int) - s.micros).tdiv weekLength
    | .quarter => (s.monthsBetween t).tdiv 3
  readTime s := Timestamp.read? s.toList

/-- **There is a database as documented.** -/
theorem standard_isDocumented : standard.IsDocumented where
  dateFormat := by
    intro t pattern s h
    simp only [standard, h]
  timestampDiff_week := fun _ _ => rfl
  timestampDiff_quarter := fun _ _ => rfl
  dateAdd_week := by
    intro s t n h
    simp only [standard]
    rw [← h]
    exact t.ofMicros?_micros
  dateAdd_quarter := fun s t n => Timestamp.addMonths?_eq
  readTime_date := by
    intro d
    simp only [standard, String.toList_ofList]
    exact Timestamp.read?_iso_date d
  readTime_iso := by
    intro t h
    simp only [standard, String.toList_ofList]
    exact Timestamp.read?_iso h

end Database

end SqlDialect
