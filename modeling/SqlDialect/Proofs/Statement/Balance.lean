import SqlDialect.Proofs.Statement.Frame
import SqlDialect.Proofs.Text.Digits
import SqlDialect.Proofs.Text.Scan

/-!
# Balanced frames

A frame is balanced if the reader comes to its operand outside of all quotes, in some number of
brackets, and closes these brackets behind the operand. Around a closed text it makes a closed text.

Here are the frames of the rules that `Frame` does not have yet, a conversion to an offset and the
casts, and the balance of them all. Two of them hold a text of their own between fixed ones: an
interval, which has to be closed, and an offset, which stands in a quote and holds none.

Main statements: `IsBalanced.fill`, and `isBalanced_timeGrouped`, `isBalanced_dateInterval` and
`isBalanced_atOffset`.
-/

namespace SqlDialect

open Text (Marks Position scan)
open Text.Position (within)

/-- The text of an offset holds no quote: it is a sign and written numbers. -/
theorem Zone.quote_notMem_offsetText (seconds : Int) : '\'' ∉ (Zone.offsetText seconds).toList := by
  have hpadded (width n : Nat) : '\'' ∉ (Text.padded width n).toList := fun h =>
    absurd (Text.isDigit_of_mem_padded _ h) (by decide)
  have hsign (b : Bool) : '\'' ∉ (if b then "-" else "+").toList := by
    cases b <;> decide +kernel
  have hcolon : '\'' ∉ ":".toList := by decide
  rw [Zone.offsetText]
  simp only [String.toList_append, List.mem_append, not_or]
  refine ⟨⟨⟨?_, hpadded _ _⟩, hcolon⟩, hpadded _ _⟩
  simpa using hsign (decide (seconds / 60 < 0))

/-- The offset of a zone holds no quote. -/
theorem Zone.quote_notMem_utcOffset {zones : Zone.Lookup} {key : Value} {t : Instant}
    {offset : String} (h : Zone.utcOffset zones key t = .ok offset) : '\'' ∉ offset.toList := by
  obtain ⟨zone, -, hzone⟩ := Zone.utcOffset_eq_ok_iff.mp h
  rw [Zone.offsetTextAt?] at hzone
  split at hzone
  · cases hzone
    exact Zone.quote_notMem_offsetText _
  · cases hzone

namespace Statement.Frame

variable {m : Marks}

/-! ## The other rules -/

/-- A time of the session's zone moved to an offset. -/
def atOffset (offset : String) : Frame :=
  ⟨"CONVERT_TZ(", ", @@session.time_zone, '" ++ offset ++ "')"⟩

/-- A value as a timestamp. -/
def timestamp : Frame := ⟨"TIMESTAMP(", ")"⟩

/-- A value as a text. -/
def char : Frame := ⟨"CAST(", " as CHAR)"⟩

theorem fill_atOffset (offset field : String) :
    (atOffset offset).fill field = Rules.convertToOffset field offset :=
  fill_append _ _ _ _ _

theorem fill_timestamp (value : String) : timestamp.fill value = Rules.timestampOf value := rfl

theorem fill_char (sql : String) : char.fill sql = Rules.charOf sql := rfl

/-! ## Balance -/

/-- The reader is outside of all quotes at the operand, and what was opened before the operand is
closed behind it. -/
def IsBalanced (m : Marks) (f : Frame) : Prop :=
  ∃ depth, scan m (within 0) f.left.toList = some (within depth) ∧
    scan m (within depth) f.right.toList = some (within 0)

/-- **A balanced frame around a closed text is a closed text.** -/
theorem IsBalanced.fill {f : Frame} (hf : f.IsBalanced m) {s : String} (hs : Text.IsClosed m s) :
    Text.IsClosed m (f.fill s) := by
  obtain ⟨depth, hleft, hright⟩ := hf
  rw [Text.IsClosed, Frame.fill, String.toList_append, String.toList_append, List.append_assoc,
    Text.scan_append_of_eq hleft, Text.scan_append_of_eq (hs.scan depth)]
  exact hright

/-- The brackets in which a granularity puts a date. -/
def groupedDepth : Granularity → Nat
  | .week => 4
  | .quarter => 3
  | _ => 2

theorem isBalanced_timeGrouped (m : Marks) (g : Granularity) : (timeGrouped g).IsBalanced m := by
  refine ⟨groupedDepth g, ?_, ?_⟩
  · cases m <;> cases g <;> decide +kernel
  · cases m <;> cases g <;> decide

/-- An interval that is closed itself is closed behind the date that it moves. -/
theorem isBalanced_dateInterval (isEarlier : Bool) {interval : String}
    (h : Text.IsClosed m interval) : (dateInterval isEarlier interval).IsBalanced m := by
  have hleft (b : Bool) :
      scan m (within 0) (if b then "DATE_SUB(" else "DATE_ADD(").toList = some (within 1) := by
    cases m <;> cases b <;> decide
  refine ⟨1, hleft isEarlier, ?_⟩
  have hfront : scan m (within 1) ", INTERVAL ".toList = some (within 1) := by
    cases m <;> decide
  have hback : scan m (within 1) ")".toList = some (within 0) := by
    cases m <;> decide
  rw [dateInterval, String.toList_append, String.toList_append, List.append_assoc,
    Text.scan_append_of_eq hfront, Text.scan_append_of_eq (h.scan 1)]
  exact hback

/-- An offset without a quote stays inside the quote around it. -/
theorem isBalanced_atOffset (m : Marks) {offset : String} (h : '\'' ∉ offset.toList) :
    (atOffset offset).IsBalanced m := by
  have hleft : scan m (within 0) "CONVERT_TZ(".toList = some (within 1) := by
    cases m <;> decide
  have hfront : scan m (within 1) ", @@session.time_zone, '".toList = some ⟨some '\'', 1⟩ := by
    cases m <;> decide
  have hback : scan m ⟨some '\'', 1⟩ "')".toList = some (within 0) := by
    cases m <;> decide
  refine ⟨1, hleft, ?_⟩
  rw [atOffset, String.toList_append, String.toList_append, List.append_assoc,
    Text.scan_append_of_eq hfront, Text.scan_append_of_eq (Text.scan_quoted h 1)]
  exact hback

theorem isBalanced_timestamp (m : Marks) : timestamp.IsBalanced m :=
  ⟨1, by cases m <;> decide, by cases m <;> decide⟩

theorem isBalanced_char (m : Marks) : char.IsBalanced m :=
  ⟨1, by cases m <;> decide, by cases m <;> decide⟩

end Statement.Frame

/-- Closed texts put one after another are closed. -/
theorem Rules.isClosed_concatenation {m : Marks} {parts : List String}
    (h : ∀ s ∈ parts, Text.IsClosed m s) : Text.IsClosed m (Rules.concatenation parts) := by
  have hfront : scan m (within 0) "CONCAT(".toList = some (within 1) := by
    cases m <;> decide
  have hcomma : scan m (within 1) ", ".toList = some (within 1) := by
    cases m <;> decide
  have hback : scan m (within 1) ")".toList = some (within 0) := by
    cases m <;> decide
  rw [Text.IsClosed, Rules.concatenation, String.toList_append, String.toList_append,
    List.append_assoc, Text.scan_append_of_eq hfront,
    Text.scan_append_of_eq (Text.scan_joined hcomma h)]
  exact hback

end SqlDialect
