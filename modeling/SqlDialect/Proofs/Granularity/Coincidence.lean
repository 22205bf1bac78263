import SqlDialect.Proofs.Granularity.Floor
import SqlDialect.Proofs.Query.Operation

/-!
# When two buckets are the same text

A dimension is written into its bucket once and as it is, and it may be any text, pieces of SQL
among them. So one has to ask whether a dimension can be made up for which the bucket of one
granularity looks like that of another. There is exactly one way: a week writes the day around the
start of a week, so the same text is a day whose dimension is that start written out.

Main statements: `fill_timeGrouped_eq_iff` and `buckets_coincide_iff`.
-/

namespace SqlDialect

namespace Statement.Frame

theorem IsDayOfWeek.fill_bucket {g g' : Granularity} {s s' : String} (h : IsDayOfWeek g s g' s') :
    (bucket g).fill s = (bucket g').fill s' := by
  obtain ⟨rfl, rfl, rfl⟩ := h
  exact fill_comp _ _ s

/-- **Which buckets are the same text.** -/
theorem fill_timeGrouped_eq_iff {g g' : Granularity} {s s' : String} :
    (timeGrouped g).fill s = (timeGrouped g').fill s' ↔
      (g = g' ∧ s = s') ∨ IsDayOfWeek g s g' s' ∨ IsDayOfWeek g' s' g s := by
  rw [timeGrouped, timeGrouped, fill_comp, fill_comp]
  constructor
  · intro h
    exact eq_of_fill_bucket_eq (fill_cancel h)
  · rintro (⟨rfl, rfl⟩ | hday | hday)
    · rfl
    · rw [hday.fill_bucket]
    · rw [hday.fill_bucket]

end Statement.Frame

namespace Query

open Statement (Frame)

variable {zones : Zone.Lookup}

/-- The start of the week of a date, as it is written. -/
def weekStart (d : String) : String :=
  "DATE_ADD('1900-01-01', INTERVAL TIMESTAMPDIFF(WEEK, '1900-01-01', " ++ d ++ ") WEEK)"

theorem fill_sinceReference_week (d : String) :
    (Frame.sinceReference "WEEK").fill d = weekStart d := by
  have hleft : (Frame.sinceReference "WEEK").left =
      "DATE_ADD('1900-01-01', INTERVAL TIMESTAMPDIFF(WEEK, '1900-01-01', " := by
    simp [Frame.sinceReference, Granularity.referenceDate]
  have hright : (Frame.sinceReference "WEEK").right = ") WEEK)" := by
    simp [Frame.sinceReference]
  rw [Frame.fill, hleft, hright]
  rfl

/-- **When two buckets coincide.** Whatever the dimensions are, the buckets of two granularities are
the same text exactly if the granularities and the dimensions are the same, or one is a week and the
other a day whose dimension is the start of that week. Around its dimension a granularity always
writes the same. -/
theorem buckets_coincide_iff (q q' : Query zones) :
    (∀ (g g' : Granularity) (isNamed isNamed' : Bool) (d d' : String),
      (q.timeGroupedColumn (g.given isNamed) (.text d)).result =
          (q'.timeGroupedColumn (g'.given isNamed') (.text d')).result ↔
        (g = g' ∧ d = d') ∨
          (g = .week ∧ g' = .day ∧ d' = weekStart d) ∨
          (g' = .week ∧ g = .day ∧ d = weekStart d')) ∧
    ∃ left right : Granularity → String, ∀ (g : Granularity) (isNamed : Bool) (d : String),
      (q.timeGroupedColumn (g.given isNamed) (.text d)).result = .ok (left g ++ d ++ right g) := by
  have hresult (q : Query zones) (g : Granularity) (isNamed : Bool) (d : String) :
      (q.timeGroupedColumn (g.given isNamed) (.text d)).result =
        .ok ((Frame.timeGrouped g).fill d) := by
    rw [q.timeGroupedColumn_given, Frame.fill_timeGrouped]
  constructor
  · intro g g' isNamed isNamed' d d'
    rw [hresult, hresult, Except.ok.injEq, Frame.fill_timeGrouped_eq_iff]
    simp only [Frame.IsDayOfWeek, fill_sinceReference_week]
  · refine ⟨fun g => (Frame.timeGrouped g).left, fun g => (Frame.timeGrouped g).right, ?_⟩
    intro g isNamed d
    exact hresult q g isNamed d

/-- A week of a column and the day that is the same text. -/
example :
    Granularity.week.bucketTimestamp "d" = Granularity.day.bucketTimestamp (weekStart "d") := by
  decide

end Query

end SqlDialect
