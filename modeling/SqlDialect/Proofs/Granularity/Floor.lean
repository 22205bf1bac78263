import SqlDialect.Proofs.Database.Standard
import SqlDialect.Proofs.Granularity.Since
import SqlDialect.Proofs.Query.Frames
import SqlDialect.Zone.Excerpt

/-!
# Buckets floor

The bucket that is written for a timestamp has the start of the timestamp's own bucket as its value.
Where the bucket is a formatted date, the pattern keeps the fields down to the granularity and fixes
the finer ones, and the text is read back. A week or a quarter is counted from the reference date.

Main statements: `formatted_floor`, by which a pattern writes out the start of a bucket;
`time?_bucketExpression`, the value of a bucket; and `timeGroupedColumn_floors`.
-/

namespace SqlDialect

open Timestamp (reference)

namespace Granularity

/-- The pattern of a granularity whose buckets are formatted dates. -/
def fieldPattern? : Granularity → Option String
  | .second => some secondPattern
  | .minute => some minutePattern
  | .hour => some hourPattern
  | .day => some dayPattern
  | .month => some monthPattern
  | .year => some yearPattern
  | .week => none
  | .quarter => none

theorem bucketExpression_of_fieldPattern? {g : Granularity} {pattern : String}
    (h : g.fieldPattern? = some pattern) (date : String) :
    g.bucketExpression date = dateFormat date pattern := by
  cases g <;> cases h <;> rfl

theorem quote_notMem_fieldPattern {g : Granularity} {pattern : String}
    (h : g.fieldPattern? = some pattern) : '\'' ∉ pattern.toList := by
  cases g <;> cases h <;> decide

/-- The start of a bucket has no fraction of a second. -/
theorem microsecond_of_isStart {g : Granularity} {b : Timestamp} (h : g.IsStart b) :
    b.time.microsecond = 0 := by
  have hmidnight (hb : b.time = Clock.midnight) : b.time.microsecond = 0 := by
    rw [hb]
    rfl
  cases g with
  | second => exact h
  | minute => exact h.2
  | hour => exact h.2.2
  | day => exact hmidnight h
  | week | month | quarter | year => exact hmidnight h.1

/-- **A pattern writes out the start of the bucket.** -/
theorem formatted_floor {g : Granularity} {pattern : String} (h : g.fieldPattern? = some pattern)
    (t : Timestamp) : t.formatted? pattern.toList = some (g.floor t).iso := by
  have hzero : (Text.padded 2 0).toList = ['0', '0'] := by decide
  have hone : (Text.padded 2 1).toList = ['0', '1'] := by decide
  have hyear : 12 * t.date.year / 12 = t.date.year := by omega
  have hchars : secondPattern.toList = ['%', 'Y', '-', '%', 'm', '-', '%', 'd', 'T', '%', 'H', ':',
        '%', 'i', ':', '%', 'S', '.', '0', '0', '0'] ∧
      minutePattern.toList = ['%', 'Y', '-', '%', 'm', '-', '%', 'd', 'T', '%', 'H', ':',
        '%', 'i', ':', '0', '0', '.', '0', '0', '0'] ∧
      hourPattern.toList = ['%', 'Y', '-', '%', 'm', '-', '%', 'd', 'T', '%', 'H', ':',
        '0', '0', ':', '0', '0', '.', '0', '0', '0'] ∧
      dayPattern.toList = ['%', 'Y', '-', '%', 'm', '-', '%', 'd', 'T', '0', '0', ':',
        '0', '0', ':', '0', '0', '.', '0', '0', '0'] ∧
      monthPattern.toList = ['%', 'Y', '-', '%', 'm', '-', '0', '1', 'T', '0', '0', ':',
        '0', '0', ':', '0', '0', '.', '0', '0', '0'] ∧
      yearPattern.toList = ['%', 'Y', '-', '0', '1', '-', '0', '1', 'T', '0', '0', ':',
        '0', '0', ':', '0', '0', '.', '0', '0', '0'] := by
    decide
  obtain ⟨hsecond, hminute, hhour, hday, hmonth, hyearly⟩ := hchars
  -- What the pattern fixes are the fields that the start of the bucket has at their least.
  cases g <;> cases h <;>
    simp [hsecond, hminute, hhour, hday, hmonth, hyearly, hzero, hone, hyear,
      Timestamp.formatted?, Timestamp.field?, Timestamp.iso, Date.iso, Clock.iso, floor,
      Date.midnight, Clock.midnight, Date.ofMonth, Date.monthNumber_div, Date.monthNumber_mod]

/-- A start at the beginning of a day is the start of its day. -/
theorem floor_day_of_midnight {b : Timestamp} (h : b.time = Clock.midnight) : day.floor b = b :=
  Timestamp.ext rfl h.symm

end Granularity

namespace Database

variable {db : Database} {row : Row}

/-- A pattern leads to the start of the bucket. -/
theorem time?_dateFormat (hdb : db.IsDocumented) {date pattern : String} {t : Timestamp}
    (h : db.time? row date = some t) {g : Granularity} (hg : g.fieldPattern? = some pattern) :
    db.time? row (Granularity.dateFormat date pattern) = some (g.floor t) := by
  have htext := hdb.dateFormat _ _ _ (Granularity.formatted_floor hg t)
  rw [time?, meaning_dateFormat h (Granularity.quote_notMem_fieldPattern hg), Option.bind_some,
    timeOf, htext]
  exact hdb.readTime_iso _ (Granularity.microsecond_of_isStart (Granularity.isStart_floor g t))

/-- **The value of a bucket of weeks or quarters** is what the units since the reference date lead
to. -/
theorem time?_bucketExpression_unit (hdb : db.IsDocumented) {date : String} {t : Timestamp}
    (h : db.time? row date = some t) (u : TimeUnit) :
    ∃ b, db.time? row (u.granularity.bucketExpression date) = some b ∧
      (reference ≤ t → b = u.granularity.floor t) ∧
      (t < reference → u.granularity.IsCeiling t b) := by
  obtain ⟨b, hb, hfloor, hceiling⟩ := exists_since hdb u t
  have hsince : db.time? row (Granularity.sinceReference date u.name) = some b := by
    rw [time?, meaning_sinceReference hdb h, hb]
    rfl
  refine ⟨b, ?_, hfloor, hceiling⟩
  cases u with
  | quarter => exact hsince
  | week =>
    -- The sum is the beginning of a Monday, so a pattern that keeps the date keeps all of it.
    have hmidnight : b.time = Clock.midnight := by
      rcases Nat.lt_or_ge t.micros reference.micros with hlt | hge
      · exact (hceiling hlt).isStart.1
      · rw [hfloor hge]
        rfl
    have hday := time?_dateFormat hdb hsince (g := .day) rfl
    rw [Granularity.floor_day_of_midnight hmidnight] at hday
    exact hday

/-- **The value of a bucket** of a timestamp from the reference date on. -/
theorem time?_bucketExpression (hdb : db.IsDocumented) {date : String} {t : Timestamp}
    (h : db.time? row date = some t) (ht : reference ≤ t) (g : Granularity) :
    db.time? row (g.bucketExpression date) = some (g.floor t) := by
  have hunit (u : TimeUnit) :
      db.time? row (u.granularity.bucketExpression date) = some (u.granularity.floor t) := by
    obtain ⟨b, hb, hfloor, -⟩ := time?_bucketExpression_unit hdb h u
    rw [hb, hfloor ht]
  cases hg : g.fieldPattern? with
  | some pattern =>
    rw [Granularity.bucketExpression_of_fieldPattern? hg]
    exact time?_dateFormat hdb h hg
  | none =>
    cases g with
    | week => exact hunit .week
    | quarter => exact hunit .quarter
    | _ => cases hg

/-- A bucket that is cast is a timestamp. -/
theorem meaning_bucketTimestamp {g : Granularity} {date : String} {b : Timestamp}
    (h : db.time? row (g.bucketExpression date) = some b) :
    db.meaning row (g.bucketTimestamp date) = some (.time b) :=
  meaning_castDateTime h

end Database

namespace Query

open Database (Row)

variable {zones : Zone.Lookup}

/-- A query writes the bucket of a granularity, given by its name or as a member. -/
theorem timeGroupedColumn_given (q : Query zones) (g : Granularity) (isNamed : Bool) (d : String) :
    (q.timeGroupedColumn (g.given isNamed) (.text d)).result = .ok (g.bucketTimestamp d) := by
  refine (timeGroupedColumn_eq_ok_iff q).mpr ⟨g, Granularity.parse_given g isNamed, ?_⟩
  rw [Statement.Frame.fill_timeGrouped]
  rfl

/-- **Buckets floor.** In any database as documented, the bucket that is written for a timestamp
from the reference date on is the greatest start of a bucket that is not later, and the bucket of
that bucket is the same. -/
theorem timeGroupedColumn_floors {db : Database} (hdb : db.IsDocumented) (q : Query zones)
    (g : Granularity) (isNamed : Bool) {row : Row} {d : String} {t : Timestamp}
    (hd : db.time? row d = some t) (ht : reference ≤ t) :
    ∃ s b, (q.timeGroupedColumn (g.given isNamed) (.text d)).result = .ok s ∧
      db.meaning row s = some (.time b) ∧ g.IsFloor t b ∧
      ∃ s', (q.timeGroupedColumn (g.given isNamed) (.text s)).result = .ok s' ∧
        db.meaning row s' = some (.time b) := by
  have hfloor := g.isFloor_floor t
  have hvalue := Database.meaning_bucketTimestamp (Database.time?_bucketExpression hdb hd ht g)
  -- The bucket is a timestamp from the reference date on too, so it is bucketed in the same way.
  have hagain : reference ≤ g.floor t :=
    hfloor.greatest reference (Database.isStart_reference g) ht
  have htime : db.time? row (g.bucketTimestamp d) = some (g.floor t) := by
    rw [Database.time?, hvalue]
    rfl
  have hvalue' := Database.meaning_bucketTimestamp
    (Database.time?_bucketExpression hdb htime hagain g)
  rw [g.floor_floor] at hvalue'
  exact ⟨_, _, q.timeGroupedColumn_given g isNamed d, hvalue, hfloor, _,
    q.timeGroupedColumn_given g isNamed _, hvalue'⟩

/-- The week of a leap day, at a time with a fraction of a second. -/
theorem timeGroupedColumn_floors_leap_day :
    Database.standard.IsDocumented ∧
      Database.standard.time? (fun _ => none) "'2024-02-29 13:45:59.250'" =
        some ⟨⟨2024, 2, 29, by decide, by decide, by decide⟩,
          ⟨13, 45, 59, 250000, by decide, by decide, by decide, by decide⟩⟩ ∧
      ∃ s b, ((⟨.doris, ⟨"UTC", .null, by decide⟩⟩ : Query Zone.excerpt).timeGroupedColumn
          (.text "week") (.text "'2024-02-29 13:45:59.250'")).result = .ok s ∧
        Database.standard.meaning (fun _ => none) s = some (.time b) ∧
        b = (⟨2024, 2, 26, by decide, by decide, by decide⟩ : Date).midnight := by
  have htime : Database.standard.time? (fun _ => none) "'2024-02-29 13:45:59.250'" =
      some ⟨⟨2024, 2, 29, by decide, by decide, by decide⟩,
        ⟨13, 45, 59, 250000, by decide, by decide, by decide, by decide⟩⟩ := by
    rfl
  obtain ⟨s, b, hs, hb, hfloor, -⟩ := timeGroupedColumn_floors Database.standard_isDocumented
    (⟨.doris, ⟨"UTC", .null, by decide⟩⟩ : Query Zone.excerpt) .week true htime (by decide)
  have hmonday : Granularity.week.IsStart
      (⟨2024, 2, 26, by decide, by decide, by decide⟩ : Date).midnight :=
    ⟨rfl, by decide⟩
  exact ⟨Database.standard_isDocumented, htime, s, b, hs, hb,
    hfloor.unique (hmonday.isFloor (by rfl))⟩

end Query

end SqlDialect
