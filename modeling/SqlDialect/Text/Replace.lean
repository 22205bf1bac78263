/-!
# Replacing a text inside a text

`replaceAll old new` walks the characters from the left and writes `new` for each occurrence of
`old`, going on behind the occurrence: occurrences never overlap, and what was written is never
read again. `doubled mark` is the special case behind quoting, in which every occurrence of a mark
is written twice, and `doublePercents` the one behind percent signs.

The functions recurse on the characters alone: the first argument of `replaceFrom` counts the
characters of the current occurrence that are still to be passed over.

`segments old` cuts a text at the same occurrences and keeps what is between them.

The main statements say how each function acts on a text that is put together from parts:
`doublePercents` distributes over appending, and putting `new` between the segments of a text replaces
`old` by `new` (`joinSegments_segments`).
-/

namespace SqlDialect.Text

/-- Replaces the occurrences of `old` in a list of characters, the first `skip` of which belong to
an occurrence that has been written already. -/
def replaceFrom (old new : List Char) : Nat → List Char → List Char
  | _, [] => []
  | skip + 1, _ :: rest => replaceFrom old new skip rest
  | 0, c :: rest =>
    if old.isPrefixOf (c :: rest) then new ++ replaceFrom old new (old.length - 1) rest
    else c :: replaceFrom old new 0 rest

/-- Every occurrence of `old`, taken from the left without overlap, becomes `new`. An empty `old`
occurs nowhere. -/
def replaceAll (old new s : List Char) : List Char :=
  if old = [] then s else replaceFrom old new 0 s

/-- Every occurrence of `mark` is written twice. -/
def doubled (mark s : List Char) : List Char :=
  replaceAll mark (mark ++ mark) s

/-- Every percent sign is written twice, as a text needs it in which single ones stand for
parameters. -/
def doublePercents : List Char → List Char
  | [] => []
  | c :: rest => if c = '%' then '%' :: '%' :: doublePercents rest else c :: doublePercents rest

/-- A character in front of the first segment. -/
def consSegment (c : Char) : List (List Char) → List (List Char)
  | [] => [[c]]
  | segment :: rest => (c :: segment) :: rest

/-- The segments between the occurrences of `old` in a list of characters, the first `skip` of which
belong to an occurrence that has been found already. -/
def segmentsFrom (old : List Char) : Nat → List Char → List (List Char)
  | _, [] => [[]]
  | skip + 1, _ :: rest => segmentsFrom old skip rest
  | 0, c :: rest =>
    if old.isPrefixOf (c :: rest) then [] :: segmentsFrom old (old.length - 1) rest
    else consSegment c (segmentsFrom old 0 rest)

/-- The segments of a text between the occurrences of `old`, taken from the left without overlap.
There is always at least one. -/
def segments (old s : List Char) : List (List Char) :=
  if old = [] then [s] else segmentsFrom old 0 s

/-- Segments with a text between each two. -/
def joinSegments (new : List Char) : List (List Char) → List Char
  | [] => []
  | [segment] => segment
  | segment :: rest => segment ++ new ++ joinSegments new rest

/-- `replaceAll` on strings. -/
def replace (old new s : String) : String :=
  String.ofList (replaceAll old.toList new.toList s.toList)

/-- `doublePercents` on strings. -/
def escapePercents (s : String) : String :=
  String.ofList (doublePercents s.toList)

@[simp] theorem replaceFrom_nil (old new : List Char) (skip : Nat) :
    replaceFrom old new skip [] = [] := by
  cases skip <;> rfl

/-- Passing over `skip` characters drops them. -/
theorem replaceFrom_eq_drop (old new : List Char) (skip : Nat) (s : List Char) :
    replaceFrom old new skip s = replaceFrom old new 0 (s.drop skip) := by
  induction skip generalizing s with
  | zero => rfl
  | succ skip ih =>
    cases s with
    | nil => simp
    | cons c rest => exact ih rest

theorem segmentsFrom_ne_nil (old : List Char) (skip : Nat) (s : List Char) :
    segmentsFrom old skip s ≠ [] := by
  induction s generalizing skip with
  | nil => cases skip <;> simp [segmentsFrom]
  | cons c rest ih =>
    cases skip with
    | succ skip => exact ih skip
    | zero =>
      simp only [segmentsFrom]
      split
      · simp
      · cases h : segmentsFrom old 0 rest <;> simp [consSegment]

theorem joinSegments_consSegment {new : List Char} {c : Char} {parts : List (List Char)}
    (h : parts ≠ []) : joinSegments new (consSegment c parts) = c :: joinSegments new parts := by
  match parts, h with
  | [part], _ => rfl
  | part :: next :: rest, _ => rfl

theorem joinSegments_segmentsFrom (old new : List Char) (skip : Nat) (s : List Char) :
    joinSegments new (segmentsFrom old skip s) = replaceFrom old new skip s := by
  induction s generalizing skip with
  | nil => cases skip <;> rfl
  | cons c rest ih =>
    cases skip with
    | succ skip => exact ih skip
    | zero =>
      simp only [segmentsFrom, replaceFrom]
      split
      · cases h : segmentsFrom old (old.length - 1) rest with
        | nil => exact absurd h (segmentsFrom_ne_nil _ _ _)
        | cons part parts =>
          rw [← ih, h]
          rfl
      · rw [joinSegments_consSegment (segmentsFrom_ne_nil _ _ _), ih]

/-- Putting `new` between the segments replaces `old` by `new`. -/
theorem joinSegments_segments (old new s : List Char) :
    joinSegments new (segments old s) = replaceAll old new s := by
  by_cases h : old = []
  · simp [segments, replaceAll, h, joinSegments]
  · simp [segments, replaceAll, h, joinSegments_segmentsFrom]

@[simp] theorem doublePercents_append (s t : List Char) :
    doublePercents (s ++ t) = doublePercents s ++ doublePercents t := by
  induction s with
  | nil => rfl
  | cons c rest ih => by_cases h : c = '%' <;> simp [doublePercents, h, ih]

end SqlDialect.Text
