import SqlDialect.Proofs.Statement.Repetition
import SqlDialect.Proofs.Text.Format
import SqlDialect.Proofs.Text.Occurrence
import SqlDialect.Statement.Render

/-!
# Rules as frames

A rule that floors or moves a time writes fixed text to the left and to the right of its operand:
it is a `Frame`, and nesting rules composes their frames. The compiler does not know this. It
applies the rule to a placeholder and looks for the placeholder in what comes out, so it is right
only if the frame itself does not show the placeholder, not even across the seam to the operand.
That is `IsClean`.

Main statements: `wrap_fill`, by which wrapping a clean frame around an operand puts the two sides,
percent signs doubled, around the pieces of the operand; `render_timeGrouped_result` and
`render_dateInterval_result`, by which that is what the compiler does for each of the two
constructs; and `finish_around`, by which the finished text is the frame around the finished
operand, with the same parameters.
-/

namespace SqlDialect.Statement

/-- Text on both sides of an operand. -/
structure Frame where
  left : String
  right : String
  deriving DecidableEq, Repr

namespace Frame

/-- The frame around a text. -/
def fill (f : Frame) (s : String) : String :=
  f.left ++ s ++ f.right

/-- One frame around another. -/
def comp (outer inner : Frame) : Frame :=
  ⟨outer.left ++ inner.left, inner.right ++ outer.right⟩

/-- Nothing on both sides. -/
def empty : Frame := ⟨"", ""⟩

/-- The frame with its percent signs doubled. -/
def escaped (f : Frame) : Frame :=
  ⟨Text.escapePercents f.left, Text.escapePercents f.right⟩

/-- The frame, percent signs doubled, around pieces. -/
def around (f : Frame) (pieces : Pieces) : Pieces :=
  .text f.escaped.left :: pieces ++ [.text f.escaped.right]

@[simp] theorem fill_empty (s : String) : empty.fill s = s := by
  simp [empty, fill]

theorem fill_comp (outer inner : Frame) (s : String) :
    (outer.comp inner).fill s = outer.fill (inner.fill s) := by
  simp [fill, comp, String.append_assoc]

@[simp] theorem escaped_empty : empty.escaped = empty := rfl

theorem escaped_comp (outer inner : Frame) :
    (outer.comp inner).escaped = outer.escaped.comp inner.escaped := by
  simp [escaped, comp, Text.escapePercents]

/-- Doubling the percent signs of a framed text doubles those of the frame and those of the text. -/
theorem escapePercents_fill (f : Frame) (s : String) :
    Text.escapePercents (f.fill s) = f.escaped.fill (Text.escapePercents s) := by
  simp [fill, escaped, Text.escapePercents, String.append_assoc]

/-! ## The placeholder -/

/-- The placeholder shows in neither side, percent signs doubled or not, and cannot begin before the
operand. -/
def IsClean (f : Frame) : Prop :=
  Text.Surrounds placeholder.toList (Text.doublePercents f.left.toList)
    (Text.doublePercents f.right.toList)

theorem escapePercents_placeholder : Text.escapePercents placeholder = placeholder := by
  decide +kernel

/-- **The operand goes where the placeholder is.** A rule of a clean frame that is wrapped around an
operand is the frame around the operand. -/
theorem wrap_fill {f : Frame} (h : f.IsClean) (operand : Pieces) :
    wrap (f.fill placeholder) operand = f.around operand := by
  have hp : Text.doublePercents placeholder.toList = placeholder.toList := by
    have := congrArg String.toList escapePercents_placeholder
    simpa [Text.escapePercents] using this
  have hseg : Text.segments placeholder.toList
      (Text.doublePercents (f.fill placeholder).toList) =
        [Text.doublePercents f.left.toList, Text.doublePercents f.right.toList] := by
    rw [← Text.segments_around h, fill, String.toList_append, String.toList_append,
      Text.doublePercents_append, Text.doublePercents_append, hp]
  rw [wrap, hseg]
  rfl

/-! ## The rules -/

/-- A date formatted with a pattern. -/
def dateFormat (pattern : String) : Frame :=
  ⟨"DATE_FORMAT(", ", '" ++ pattern ++ "')"⟩

/-- The reference date plus the whole units of time from it to a date. -/
def sinceReference (unit : String) : Frame :=
  ⟨"DATE_ADD('" ++ Granularity.referenceDate ++ "', INTERVAL TIMESTAMPDIFF(" ++ unit ++ ", '" ++
      Granularity.referenceDate ++ "', ", ") " ++ unit ++ ")"⟩

/-- The start of a date's bucket. -/
def bucket : Granularity → Frame
  | .second => dateFormat Granularity.secondPattern
  | .minute => dateFormat Granularity.minutePattern
  | .hour => dateFormat Granularity.hourPattern
  | .day => dateFormat Granularity.dayPattern
  | .week => (dateFormat Granularity.dayPattern).comp (sinceReference "WEEK")
  | .month => dateFormat Granularity.monthPattern
  | .quarter => sinceReference "QUARTER"
  | .year => dateFormat Granularity.yearPattern

/-- The start of a date's bucket as a timestamp. -/
def timeGrouped (g : Granularity) : Frame :=
  (⟨"CAST(", " AS DATETIME)"⟩ : Frame).comp (bucket g)

/-- A date moved by an interval. -/
def dateInterval (isEarlier : Bool) (interval : String) : Frame :=
  ⟨if isEarlier then "DATE_SUB(" else "DATE_ADD(", ", INTERVAL " ++ interval ++ ")"⟩

/-- A frame whose right side is put together from three texts. -/
theorem fill_append (left a b c s : String) :
    fill ⟨left, a ++ b ++ c⟩ s = left ++ s ++ a ++ b ++ c := by
  rw [fill, ← String.append_assoc, ← String.append_assoc]

theorem fill_dateFormat (pattern date : String) :
    (dateFormat pattern).fill date = Granularity.dateFormat date pattern :=
  fill_append _ _ _ _ _

theorem fill_sinceReference (unit date : String) :
    (sinceReference unit).fill date = Granularity.sinceReference date unit :=
  fill_append _ _ _ _ _

theorem fill_bucket (g : Granularity) (date : String) :
    (bucket g).fill date = g.bucketExpression date := by
  cases g <;>
    simp only [bucket, fill_comp, fill_dateFormat, fill_sinceReference, Granularity.bucketExpression]

/-- Flooring a time writes a frame around it. -/
theorem fill_timeGrouped (g : Granularity) (date : String) :
    (timeGrouped g).fill date = g.bucketTimestamp date := by
  rw [timeGrouped, fill_comp, fill_bucket]
  rfl

/-- Moving a time writes a frame around it. -/
theorem fill_dateInterval (isEarlier : Bool) (date interval : String) :
    (dateInterval isEarlier interval).fill date =
      if isEarlier then Rules.dateSub date interval else Rules.dateAdd date interval := by
  cases isEarlier <;> exact fill_append _ _ _ _ _

/-- A frame is clean if its left side ends with a separator and some letter of the placeholder does
not show in the frame. -/
theorem isClean_of_not_mem {f : Frame} {front : List Char} {c a : Char}
    (hleft : f.left.toList = front ++ [c]) (hc : c ≠ '%' ∧ c ∉ placeholder.toList)
    (ha : a ∈ placeholder.toList) (hfront : a ∉ front) (hright : a ∉ f.right.toList) :
    f.IsClean := by
  have hfree : ∀ s : List Char, a ∉ s → ¬ placeholder.toList <:+: Text.doublePercents s := by
    intro s hs hin
    have hin := Text.infix_of_infix_doublePercents (by decide) hin
    exact hs (hin.subset ha)
  refine ⟨⟨Text.doublePercents front, c, ?_, hc.2, hfree front hfront⟩, hfree _ hright⟩
  rw [hleft, Text.doublePercents_append, Text.doublePercents, if_neg hc.1]
  rfl

/-- Each of the frames of the granularities is clean. -/
theorem isClean_timeGrouped (g : Granularity) : (timeGrouped g).IsClean := by
  -- None of the patterns and none of the functions is written with an `o`.
  have hfront : 'o' ∉ (timeGrouped g).left.toList.dropLast := by
    cases g <;> decide +kernel
  have hright : 'o' ∉ (timeGrouped g).right.toList := by
    cases g <;> decide +kernel
  refine isClean_of_not_mem (c := if g = .week ∨ g = .quarter then ' ' else '(') ?_ ?_ (by decide)
    hfront hright
  · cases g <;> decide +kernel
  · cases g <;> decide

/-- The frame of an interval is clean if the interval does not hold the placeholder. The comma, the
blank and the bracket around the interval keep the placeholder from beginning or ending in it. -/
theorem isClean_dateInterval (isEarlier : Bool) {interval : String}
    (h : ¬ placeholder.toList <:+: interval.toList) :
    (dateInterval isEarlier interval).IsClean := by
  refine ⟨⟨(if isEarlier then "DATE_SUB" else "DATE_ADD").toList, '(', ?_, by decide, ?_⟩, ?_⟩
  · show Text.doublePercents (if isEarlier then "DATE_SUB(" else "DATE_ADD(").toList = _
    cases isEarlier <;> decide +kernel
  · cases isEarlier <;> decide +kernel
  · intro hin
    have hright : placeholder.toList <:+:
        ", INTERVAL".toList ++ ' ' :: (interval.toList ++ ')' :: []) := by
      have hin := Text.infix_of_infix_doublePercents (by decide) hin
      simpa [dateInterval] using hin
    rcases (Text.infix_append_cons_iff (by decide)).mp hright with hfront | hback
    · exact absurd hfront (by decide +kernel)
    · rcases (Text.infix_append_cons_iff (by decide)).mp hback with hinterval | hnil
      · exact h hinterval
      · exact absurd hnil (by decide +kernel)

/-! ## Finished statements -/

/-- A frame, percent signs doubled, around a finished statement. -/
def finished (f : Frame) (c : Compiled) : Compiled :=
  ⟨f.escaped.fill c.sql, c.parameters⟩

@[simp] theorem finished_empty (c : Compiled) : empty.finished c = c := by
  simp [finished]

theorem finished_comp (outer inner : Frame) (c : Compiled) :
    (outer.comp inner).finished c = outer.finished (inner.finished c) := by
  simp only [finished, escaped_comp, fill_comp]

end Frame

/-! ## Nodes -/

/-- The rule of a granularity writes its frame. -/
theorem timeGroupedColumn_result {v : Value} {g : Granularity} (h : Granularity.parse v = .ok g)
    (s : String) :
    (Granularity.timeGroupedColumn v (.text s)).result = .ok ((Frame.timeGrouped g).fill s) := by
  rw [Frame.fill_timeGrouped, Granularity.timeGroupedColumn, h]
  rfl

/-- Flooring puts a frame around the pieces of the operand. -/
theorem render_timeGrouped_result (s : Scope) (p : Place) (g : Granularity) (e : Expression) :
    ((Expression.timeGrouped g e).render s p).result =
      (e.render s (p.child 0)).result.map (Frame.timeGrouped g).around := by
  have hrule : (Rules.doris.timeGroupedColumn (.granularity g) (.text placeholder)).result =
      .ok ((Frame.timeGrouped g).fill placeholder) :=
    timeGroupedColumn_result (Granularity.parse_granularity g) placeholder
  rw [Expression.render_timeGrouped, Outcome.result_bind hrule]
  show (e.render s (p.child 0)).result.map _ = _
  rw [funext (Frame.wrap_fill (Frame.isClean_timeGrouped g))]

/-- Moving by an interval without the placeholder puts a frame around the pieces of the operand. -/
theorem render_dateInterval_result (s : Scope) (p : Place) (isEarlier : Bool) (e : Expression)
    {interval : String} (h : ¬ placeholder.toList <:+: interval.toList) :
    ((Expression.dateInterval isEarlier e (.text interval)).render s p).result =
      (e.render s (p.child 0)).result.map (Frame.dateInterval isEarlier interval).around := by
  have hrule : intervalRule isEarlier (.text interval) =
      (Frame.dateInterval isEarlier interval).fill placeholder := by
    rw [Frame.fill_dateInterval]
    rfl
  rw [Expression.render_dateInterval, hrule]
  show (e.render s (p.child 0)).result.map _ = _
  rw [funext (Frame.wrap_fill (Frame.isClean_dateInterval isEarlier h))]

/-! ## Finished frames -/

/-- **A frame takes no part in the names.** What is finished is the frame around the finished
pieces. -/
theorem finish_around (f : Frame) (isExpanded : Bool) (pieces : Pieces) :
    Pieces.finish isExpanded (f.around pieces) =
      (Pieces.finish isExpanded pieces).map f.finished := by
  simp only [Pieces.finish, Pieces.finishFrom_eq_run, except_map_map]
  show ((Pieces.run isExpanded {} (pieces ++ [.text f.escaped.right])).bind _).map _ = _
  rw [Pieces.run_append]
  cases Pieces.run isExpanded {} pieces with
  | error e => rfl
  | ok done =>
    show Except.ok _ = Except.ok _
    simp [Frame.finished, Frame.fill, Text.concat, Text.concat_append, String.append_assoc]

end SqlDialect.Statement
