import SqlDialect.Proofs.Granularity.Floor
import SqlDialect.Zone.Excerpt

/-!
# Weeks and quarters as a partition

From the reference date on, the buckets of weeks partition the calendar into the weeks from Monday
to Sunday, and those of quarters into the quarters of the years, and no bucket is later than the
timestamps in it. Before the reference date that fails: units are counted towards zero, so a bucket
there is the next start, which is later than every timestamp that is no start itself. The last days
before the reference date share its bucket.

Main statements: `weeks_and_quarters`, what holds on both sides of the reference date, and
`last_day_before_reference`, where it fails.
-/

namespace SqlDialect

open Database (TimeUnit Row)
open Timestamp (reference)

/-- The number of the Monday on or before a date. -/
def Date.monday (d : Date) : Nat :=
  d.number - (Calendar.weekday d.number + 6) % 7

namespace Database.TimeUnit

/-- Whether two timestamps lie in the same week from Monday to Sunday, or in the same quarter of the
same year. -/
def Same : TimeUnit → Timestamp → Timestamp → Prop
  | .week, s, t => s.date.monday = t.date.monday
  | .quarter, s, t => s.date.year = t.date.year ∧ (s.date.month - 1) / 3 = (t.date.month - 1) / 3

instance (u : TimeUnit) (s t : Timestamp) : Decidable (u.Same s t) := by
  cases u
  · exact inferInstanceAs (Decidable (_ = _))
  · exact inferInstanceAs (Decidable (_ ∧ _))

/-- The weeks and quarters are the buckets. -/
theorem same_iff_index_eq (u : TimeUnit) (s t : Timestamp) :
    u.Same s t ↔ u.granularity.index s = u.granularity.index t := by
  cases u with
  | week =>
    simp only [Same, granularity, Granularity.index, Date.monday, Calendar.weekday]
    omega
  | quarter =>
    have hs := s.date.month_bounds
    have ht := t.date.month_bounds
    simp only [Same, granularity, Granularity.index, Date.monthNumber, Calendar.monthNumber]
    omega

end Database.TimeUnit

namespace Query

variable {zones : Zone.Lookup}

/-- The bucket of a week or quarter is not later than the timestamp exactly from the reference date
on and at starts, and then it is the start of the timestamp's own week or quarter. -/
theorem timeGroupedColumn_unit {db : Database} (hdb : db.IsDocumented) (q : Query zones) (u : TimeUnit)
    (isNamed : Bool) {row : Row} {d : String} {t : Timestamp} (hd : db.time? row d = some t) :
    ∃ s b, (q.timeGroupedColumn (u.granularity.given isNamed) (.text d)).result = .ok s ∧
      db.meaning row s = some (.time b) ∧ (t < reference → u.granularity.IsCeiling t b) ∧
      (b ≤ t ↔ reference ≤ t ∨ u.granularity.IsStart t) ∧
      (b ≤ t → b = u.granularity.floor t) := by
  obtain ⟨b, hb, hfloor, hceiling⟩ := Database.time?_bucketExpression_unit hdb hd u
  refine ⟨_, b, q.timeGroupedColumn_given _ isNamed d, Database.meaning_bucketTimestamp hb,
    hceiling, ?_⟩
  have hown := Granularity.isFloor_floor u.granularity t
  rcases Nat.lt_or_ge t.micros reference.micros with hlt | hge
  · have hnot : ¬ reference ≤ t := Nat.not_le_of_lt hlt
    have hleast := hceiling hlt
    refine ⟨?_, fun hle => (hleast.isFloor hle).unique hown⟩
    rw [hleast.le_iff_isStart, or_iff_right hnot]
  · rw [hfloor hge]
    exact ⟨iff_of_true hown.le (Or.inl hge), fun _ => rfl⟩

/-- **Weeks and quarters on both sides of the reference date.** The buckets of two timestamps tell
whether these lie in the same week or quarter and are not later than they, exactly if each of the
two is not before the reference date or is a start. The bucket of a timestamp before the reference
date is the least start that is not earlier. -/
theorem weeks_and_quarters {db : Database} (hdb : db.IsDocumented) (q : Query zones) (u : TimeUnit)
    (isNamed : Bool) {row row' : Row} {d d' : String} {t t' : Timestamp}
    (hd : db.time? row d = some t) (hd' : db.time? row' d' = some t') :
    ∃ s s' b b', (q.timeGroupedColumn (u.granularity.given isNamed) (.text d)).result = .ok s ∧
      (q.timeGroupedColumn (u.granularity.given isNamed) (.text d')).result = .ok s' ∧
      db.meaning row s = some (.time b) ∧ db.meaning row' s' = some (.time b') ∧
      (((b = b' ↔ u.Same t t') ∧ b ≤ t ∧ b' ≤ t') ↔
        (reference ≤ t ∨ u.granularity.IsStart t) ∧
          (reference ≤ t' ∨ u.granularity.IsStart t')) ∧
      (t < reference → u.granularity.IsCeiling t b) := by
  obtain ⟨s, b, hs, hb, hceiling, hle, hfloor⟩ := timeGroupedColumn_unit hdb q u isNamed hd
  obtain ⟨s', b', hs', hb', -, hle', hfloor'⟩ := timeGroupedColumn_unit hdb q u isNamed hd'
  refine ⟨s, s', b, b', hs, hs', hb, hb', ?_, hceiling⟩
  rw [← hle, ← hle']
  constructor
  · intro h
    exact h.2
  · intro h
    refine ⟨?_, h⟩
    rw [hfloor h.1, hfloor' h.2, Granularity.floor_eq_floor_iff, TimeUnit.same_iff_index_eq]

/-- A Thursday in two weeks of the same quarter, which are told apart. -/
theorem weeks_and_quarters_of_two_thursdays :
    Database.standard.IsDocumented ∧
      Database.standard.time? (fun _ => none) "'2024-02-29'" =
        some (⟨2024, 2, 29, by decide, by decide, by decide⟩ : Date).midnight ∧
      Database.standard.time? (fun _ => none) "'2024-03-07'" =
        some (⟨2024, 3, 7, by decide, by decide, by decide⟩ : Date).midnight ∧
      ∃ s s' b b', ((⟨.doris, ⟨"UTC", .null, by decide⟩⟩ : Query Zone.excerpt).timeGroupedColumn
          (.text "week") (.text "'2024-02-29'")).result = .ok s ∧
        ((⟨.doris, ⟨"UTC", .null, by decide⟩⟩ : Query Zone.excerpt).timeGroupedColumn
          (.text "week") (.text "'2024-03-07'")).result = .ok s' ∧
        Database.standard.meaning (fun _ => none) s = some (.time b) ∧
        Database.standard.meaning (fun _ => none) s' = some (.time b') ∧ b ≠ b' := by
  have hd : Database.standard.time? (fun _ => none) "'2024-02-29'" =
      some (⟨2024, 2, 29, by decide, by decide, by decide⟩ : Date).midnight := by
    decide
  have hd' : Database.standard.time? (fun _ => none) "'2024-03-07'" =
      some (⟨2024, 3, 7, by decide, by decide, by decide⟩ : Date).midnight := by
    decide
  obtain ⟨s, s', b, b', hs, hs', hb, hb', hexact, -⟩ := weeks_and_quarters
    Database.standard_isDocumented (⟨.doris, ⟨"UTC", .null, by decide⟩⟩ : Query Zone.excerpt)
    .week true hd hd'
  have hsame := (hexact.mpr ⟨Or.inl (by decide), Or.inl (by decide)⟩).1
  refine ⟨Database.standard_isDocumented, hd, hd', s, s', b, b', hs, hs', hb, hb', ?_⟩
  rw [Ne, hsame]
  decide

/-- The last day before the reference date has the reference date as its week and as its quarter,
which is later and in another week and another quarter. -/
theorem last_day_before_reference :
    Database.standard.IsDocumented ∧
      Database.standard.time? (fun _ => none) "'1899-12-31 00:00:00'" =
        some (⟨1899, 12, 31, by decide, by decide, by decide⟩ : Date).midnight ∧
      ((⟨.doris, ⟨"UTC", .null, by decide⟩⟩ : Query Zone.excerpt).timeGroupedColumn
        (.text "week") (.text "'1899-12-31 00:00:00'")).result =
          .ok (Granularity.week.bucketTimestamp "'1899-12-31 00:00:00'") ∧
      ((⟨.doris, ⟨"UTC", .null, by decide⟩⟩ : Query Zone.excerpt).timeGroupedColumn
        (.text "quarter") (.text "'1899-12-31 00:00:00'")).result =
          .ok (Granularity.quarter.bucketTimestamp "'1899-12-31 00:00:00'") ∧
      Database.standard.meaning (fun _ => none)
        (Granularity.week.bucketTimestamp "'1899-12-31 00:00:00'") = some (.time reference) ∧
      Database.standard.meaning (fun _ => none)
        (Granularity.quarter.bucketTimestamp "'1899-12-31 00:00:00'") = some (.time reference) ∧
      Database.standard.meaning (fun _ => none)
        (Granularity.week.bucketTimestamp "'1900-01-01 00:00:00'") = some (.time reference) ∧
      (⟨1899, 12, 31, by decide, by decide, by decide⟩ : Date).midnight < reference ∧
      ¬ TimeUnit.week.Same
        (⟨1899, 12, 31, by decide, by decide, by decide⟩ : Date).midnight reference ∧
      ¬ TimeUnit.quarter.Same
        (⟨1899, 12, 31, by decide, by decide, by decide⟩ : Date).midnight reference := by
  refine ⟨Database.standard_isDocumented, by decide,
    timeGroupedColumn_given _ .week true _, timeGroupedColumn_given _ .quarter true _, ?_, ?_, ?_,
    ?_, ?_, ?_⟩
  all_goals decide +kernel

end Query

end SqlDialect
