import SqlDialect.Identifier.Written
import SqlDialect.Statement.Piece
import SqlDialect.Text.Join
import SqlDialect.Text.Number

/-!
# Names of a statement

The pass from pieces to the finished text. It goes through the pieces from the left to the right and
gives each generated name its number the first time it comes up. All names of one base share a
counter, whatever they are for: the parameters, the labels and the sources. A name that is too long
is cut and gets a second number.

Main statement: `number_fst_of_mem`, by which a name that has a number keeps it.
-/

namespace SqlDialect.Statement

/-- The numbers and the short forms that were given, the latest first. -/
structure Naming where
  numbers : List ((String × Mark) × Nat) := []
  cuts : List ((NameKind × Name) × String) := []

namespace Naming

/-- How many numbers a base has. -/
def used (n : Naming) (base : String) : Nat :=
  n.numbers.countP fun entry => entry.1.1 = base

/-- The number of a mark under a base: the one that it has, or the next one. -/
def number (n : Naming) (base : String) (mark : Mark) : Nat × Naming :=
  match n.numbers.lookup (base, mark) with
  | some k => (k, n)
  | none =>
    (n.used base + 1, { n with numbers := ((base, mark), n.used base + 1) :: n.numbers })

/-- The spelling of a name before it is cut. -/
def spell (n : Naming) : Name → String × Naming
  | [] => ("", n)
  | .text s :: rest =>
    let (more, n) := n.spell rest
    (s ++ more, n)
  | .numbered base mark :: rest =>
    let (k, n) := n.number base mark
    let (more, n) := n.spell rest
    (base ++ "_" ++ Text.ofNat k ++ more, n)

/-- The most characters that a generated name may have, six of which are kept for the number of a
short form. -/
def maxLength : Nat := 58

/-- A name of the right length: a long one is cut, and a number for each kind tells the short forms
apart. -/
def cut (n : Naming) (kind : NameKind) (name : Name) (spelled : String) : String × Naming :=
  if spelled.toList.length ≤ maxLength then (spelled, n)
  else
    -- The name as it was asked for, not its spelling, tells whether it has been cut before.
    match n.cuts.lookup (kind, name) with
    | some short => (short, n)
    | none =>
      let count := n.cuts.countP (fun entry => entry.1.1 = kind) + 1
      let short := String.ofList (spelled.toList.take maxLength) ++ "_" ++ Text.hexadecimal 1 count
      (short, { n with cuts := ((kind, name), short) :: n.cuts })

/-- The final spelling of a name. -/
def resolve (n : Naming) (kind : NameKind) (name : Name) : String × Naming :=
  let (spelled, n) := n.spell name
  n.cut kind name spelled

end Naming

/-- A finished statement: its text and its parameters in the order in which they stand in it. -/
structure Compiled where
  sql : String
  parameters : List (String × Value)

/-- Condition for an element of an empty list; it follows an open bracket and leaves one open. -/
def emptyElements (isExcluded : Bool) : String :=
  if isExcluded then "NULL) OR (1 = 1" else "NULL) AND (1 != 1"

/-- The parameters for the elements of a list, numbered from a count on. -/
def elementParameters (name : String) : Nat → List Value → List (String × Value)
  | _, [] => []
  | k, v :: rest => (name ++ "_" ++ Text.ofNat k, v) :: elementParameters name (k + 1) rest

namespace Piece

/-- The text and the parameters for the elements of a list, whose parameter has a name. The list is
a parameter of its own unless it is expanded. -/
def finishElements (isExpanded isExcluded : Bool) (name : String) (values : List Value) :
    Compiled :=
  if !isExpanded then
    ⟨Text.concat ["(__[POSTCOMPILE_", name, "])"], [(name, .list values)]⟩
  else if values.isEmpty then ⟨Text.concat ["(", emptyElements isExcluded, ")"], []⟩
  else
    ⟨Text.concat ["(", Text.joined ", " (values.map fun _ => "%s"), ")"],
      elementParameters name 1 values⟩

/-- The text and the parameters of a piece. -/
def finish (isExpanded : Bool) (n : Naming) : Piece → Except Failure (Compiled × Naming)
  | .text s => .ok (⟨s, []⟩, n)
  | .reserve kind wanted => .ok (⟨"", []⟩, (n.resolve kind wanted).2)
  | .name kind wanted =>
    let (s, n) := n.resolve kind wanted
    (Identifier.written s).map fun w => (⟨w, []⟩, n)
  | .parameter wanted value =>
    let (s, n) := n.resolve .parameter wanted
    .ok (⟨"%s", [(s, value)]⟩, n)
  | .fixed given value => .ok (⟨"%s", [(given, value)]⟩, n)
  | .elements wanted isExcluded values =>
    let (s, n) := n.resolve .parameter wanted
    .ok (finishElements isExpanded isExcluded s values, n)

end Piece

namespace Pieces

/-- The texts and the parameters of pieces, one after another. -/
def finishFrom (isExpanded : Bool) (n : Naming) : Pieces → Except Failure (List Compiled)
  | [] => .ok []
  | piece :: rest =>
    match piece.finish isExpanded n with
    | .error e => .error e
    | .ok (c, n) => (finishFrom isExpanded n rest).map (c :: ·)

/-- The finished statement. -/
def finish (isExpanded : Bool) (pieces : Pieces) : Except Failure Compiled :=
  (finishFrom isExpanded {} pieces).map fun parts =>
    ⟨Text.concat (parts.map Compiled.sql), parts.flatMap Compiled.parameters⟩

end Pieces

namespace Naming

/-- What has a number keeps it. -/
theorem number_fst_of_mem {n : Naming} {base : String} {mark : Mark} {k : Nat}
    (h : n.numbers.lookup (base, mark) = some k) : n.number base mark = (k, n) := by
  simp [number, h]

end Naming

end SqlDialect.Statement
