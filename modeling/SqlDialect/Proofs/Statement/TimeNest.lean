import SqlDialect.Proofs.Statement.Frame
import SqlDialect.Proofs.Statement.Placement
import SqlDialect.Query.Basic
import SqlDialect.Statement.Compile
import SqlDialect.Statement.Operand
import SqlDialect.Zone.Excerpt

/-!
# Nested operations on times

A `TimeNest` is a nest of floorings and moves around an operand. It can be read in two ways. As an
expression around an operand it is compiled, each node by the way of the placeholder; as a sequence
of calls of a query it acts on a text. Both write the same frame, `TimeNest.frame`: the calls write
it as it is, and the compiler writes it with its percent signs doubled, once, however deep they
stand, since what a node puts around its operand is never looked at again.

The operand is rendered at a place that depends on the depth, which shows in no finished text
(`finish_below`).

Main statements: `throughQuery_result` and `compile_around`, the two readings of a nest;
`compile_text_eq_query`, by which compiling a nest around a text is calling the query and doubling
the percent signs of the result; and `fill_compile_eq_query`, by which filling in the parameters of
a compiled nest is calling the query on the operand with its parameters filled in.
-/

namespace SqlDialect

namespace Statement

/-- Floorings and moves of a time, from the outermost to the operand. -/
inductive TimeNest where
  | operand
  | grouped (g : Granularity) (isNamed : Bool) (inner : TimeNest)
  | moved (isEarlier : Bool) (inner : TimeNest) (interval : String)

namespace TimeNest

variable {zones : Zone.Lookup}

/-- The placeholder shows in no interval. -/
def IsFree : TimeNest → Prop
  | .operand => True
  | .grouped _ _ inner => inner.IsFree
  | .moved _ inner interval => ¬ placeholder.toList <:+: interval.toList ∧ inner.IsFree

/-! ## The two readings -/

/-- The nest around an operand, as the callers of the library put it together. -/
def build (o : Operand) : TimeNest → Except Failure Operand
  | .operand => .ok o
  | .grouped g isNamed inner =>
    (inner.build o).bind fun x => (Expression.grouped (g.given isNamed) x).map .expression
  | .moved isEarlier inner interval =>
    (inner.build o).bind fun x => (Expression.moved isEarlier x (.text interval)).map .expression

/-- The expression that a nest around an operand is. -/
def expression (o : Operand) (t : TimeNest) : Except Failure Expression :=
  (t.build o).bind Operand.asTime

/-- The operations of a query, one on the result of the other. -/
def throughQuery (q : Query zones) (s : String) : TimeNest → Outcome String
  | .operand => .ok s
  | .grouped g isNamed inner =>
    (inner.throughQuery q s).bind fun sql => q.timeGroupedColumn (g.given isNamed) (.text sql)
  | .moved isEarlier inner interval =>
    (inner.throughQuery q s).mapResult fun sql =>
      if isEarlier then q.subtractInterval (.text sql) (.text interval)
      else q.addInterval (.text sql) (.text interval)

/-- The nest around an expression. -/
def around : TimeNest → Expression → Expression
  | .operand, e => e
  | .grouped g _ inner, e => .timeGrouped g (inner.around e)
  | .moved isEarlier inner interval, e => .dateInterval isEarlier (inner.around e) (.text interval)

/-- The frame that the whole nest is. -/
def frame : TimeNest → Frame
  | .operand => .empty
  | .grouped g _ inner => (Frame.timeGrouped g).comp inner.frame
  | .moved isEarlier inner interval => (Frame.dateInterval isEarlier interval).comp inner.frame

/-- How many operations there are around the operand. -/
def depth : TimeNest → Nat
  | .operand => 0
  | .grouped _ _ inner => inner.depth + 1
  | .moved _ inner _ => inner.depth + 1

/-- The pieces of the nest around those of the operand. -/
def pieces : TimeNest → Pieces → Pieces
  | .operand, p => p
  | .grouped g _ inner, p => (Frame.timeGrouped g).around (inner.pieces p)
  | .moved isEarlier inner interval, p =>
    (Frame.dateInterval isEarlier interval).around (inner.pieces p)

/-! ## As an expression -/

theorem expression_grouped (o : Operand) (g : Granularity) (isNamed : Bool) (inner : TimeNest) :
    (grouped g isNamed inner).expression o = (inner.expression o).map (.timeGrouped g) := by
  rw [expression, build, expression]
  cases inner.build o with
  | error e => rfl
  | ok x =>
    show ((Expression.grouped (g.given isNamed) x).map Operand.expression).bind _ = x.asTime.map _
    rw [Expression.grouped, g.parse_given]
    cases x.asTime <;> rfl

theorem expression_moved (o : Operand) (isEarlier : Bool) (inner : TimeNest) (interval : String) :
    (moved isEarlier inner interval).expression o =
      (inner.expression o).map fun e => .dateInterval isEarlier e (.text interval) := by
  rw [expression, build, expression]
  cases inner.build o with
  | error e => rfl
  | ok x =>
    show ((Expression.moved isEarlier x (.text interval)).map Operand.expression).bind _ =
      x.asTime.map _
    rw [Expression.moved]
    cases x.asTime <;> rfl

/-- A nest can be put around whatever can be taken for a time. -/
theorem expression_eq {o : Operand} {e : Expression} (h : o.asTime = .ok e) (t : TimeNest) :
    t.expression o = .ok (t.around e) := by
  induction t with
  | operand => exact h
  | grouped g isNamed inner ih => rw [expression_grouped, ih, around]; rfl
  | moved isEarlier inner interval ih => rw [expression_moved, ih, around]; rfl

/-! ## Through the query -/

/-- **The query writes the frame.** -/
theorem throughQuery_result (q : Query zones) (s : String) (t : TimeNest) :
    (t.throughQuery q s).result = .ok (t.frame.fill s) := by
  obtain ⟨engine, c⟩ := q
  induction t with
  | operand => simp [throughQuery, frame, Outcome.ok]
  | grouped g isNamed inner ih =>
    rw [throughQuery, Outcome.result_bind ih, frame, Frame.fill_comp]
    cases engine <;> exact timeGroupedColumn_result (g.parse_given isNamed) _
  | moved isEarlier inner interval ih =>
    rw [throughQuery, Outcome.mapResult, ih, frame, Frame.fill_comp, Frame.fill_dateInterval]
    cases engine <;> rfl

/-! ## Through the compiler -/

/-- The first step down to the operand. -/
theorem child_below (p : Place) (n : Nat) :
    (p.child 0).below (List.replicate n 0) = p.below (List.replicate (n + 1) 0) := by
  simp [Place.below, Place.child, List.replicate_succ']

/-- Each node is its clean frame around what is inside, at whatever place. -/
theorem render_around {t : TimeNest} (h : t.IsFree) (e : Expression) (s : Scope) (p : Place) :
    ((t.around e).render s p).result =
      (e.render s (p.below (List.replicate t.depth 0))).result.map t.pieces := by
  induction t generalizing p with
  | operand =>
    show (e.render s p).result = (e.render s p).result.map id
    cases (e.render s p).result <;> rfl
  | grouped g isNamed inner ih =>
    rw [around, render_timeGrouped_result, ih h, child_below, except_map_map]
    rfl
  | moved isEarlier inner interval ih =>
    rw [around, render_dateInterval_result s p isEarlier _ h.1, ih h.2, child_below, except_map_map]
    rfl

/-- Finished, a nest is its frame around the finished operand. -/
theorem finish_pieces (t : TimeNest) (isExpanded : Bool) (p : Pieces) :
    Pieces.finish isExpanded (t.pieces p) = (Pieces.finish isExpanded p).map t.frame.finished := by
  induction t with
  | operand =>
    show Pieces.finish isExpanded p = _
    cases Pieces.finish isExpanded p with
    | error e => rfl
    | ok c => simp [Except.map, frame]
  | grouped g isNamed inner ih =>
    rw [pieces, finish_around, ih, except_map_map, frame]
    simp only [← Frame.finished_comp]
  | moved isEarlier inner interval ih =>
    rw [pieces, finish_around, ih, except_map_map, frame]
    simp only [← Frame.finished_comp]

/-! ## Finished nests -/

/-- A lone expression stands beside the columns of a query. -/
theorem render_lone (env : Environment) (isLiteral : Bool) (e : Expression) :
    Statement.render env isLiteral (.expression e) =
      e.render ⟨isLiteral, ⟨none, []⟩, env⟩ ⟨none, [1]⟩ := rfl

/-- Moves the parts of a lone expression further down, and leaves all other places alone. -/
def sink (n : Nat) (p : Place) : Place :=
  if p.path.getLast? = some 1 then { p with path := p.path.dropLast ++ List.replicate n 0 ++ [1] }
  else p

theorem sink_concat (n : Nat) (source : Option String) (way : List Nat) :
    sink n ⟨source, way ++ [1]⟩ = ⟨source, way ++ List.replicate n 0 ++ [1]⟩ := by
  simp [sink]

theorem sink_of_ne (n : Nat) {p : Place} (h : p.path.getLast? ≠ some 1) : sink n p = p := by
  rw [sink, if_neg h]

theorem sink_injective (n : Nat) : Function.Injective (sink n) := by
  intro p q heq
  obtain ⟨source, path⟩ := p
  obtain ⟨source', path'⟩ := q
  by_cases h : path.getLast? = some 1
  · obtain ⟨way, rfl⟩ := List.getLast?_eq_some_iff.mp h
    rw [sink_concat] at heq
    by_cases h' : path'.getLast? = some 1
    · obtain ⟨way', rfl⟩ := List.getLast?_eq_some_iff.mp h'
      rw [sink_concat] at heq
      simpa using heq
    · rw [sink_of_ne n h'] at heq
      cases heq
      exact absurd (by simp) h'
  · rw [sink_of_ne n h] at heq
    by_cases h' : path'.getLast? = some 1
    · obtain ⟨way', rfl⟩ := List.getLast?_eq_some_iff.mp h'
      rw [sink_concat] at heq
      cases heq
      exact absurd (by simp) h
    · rwa [sink_of_ne n h'] at heq

/-- The parts of a lone expression are sunk to the same parts of the operand of a nest. -/
theorem carries_sink (n : Nat) :
    Carries (sink n) ⟨none, [1]⟩ ((⟨none, [1]⟩ : Place).below (List.replicate n 0)) := by
  intro way
  show sink n ⟨none, way ++ [1]⟩ = _
  rw [sink_concat]
  simp [Place.below]

/-- The columns of a query are not parts of a lone expression. -/
theorem carries_sink_column (n i : Nat) (isLiteral : Bool) (env : Environment) :
    Carries (sink n) ((⟨isLiteral, ⟨none, []⟩, env⟩ : Scope).columnPlace i)
      ((⟨isLiteral, ⟨none, []⟩, env⟩ : Scope).columnPlace i) := by
  intro way
  exact sink_of_ne n (by simp [Place.below, Scope.columnPlace, Place.child])

/-- **A lone expression further down.** Rendered as the operand of operations around it, an expression
is finished to what it is compiled to alone. -/
theorem finish_below (env : Environment) (style : Style) (n : Nat) (e : Expression) :
    (e.render ⟨style.isLiteral, ⟨none, []⟩, env⟩
        ((⟨none, [1]⟩ : Place).below (List.replicate n 0))).result.bind
          (Pieces.finish style.isExpanded) =
      ((Statement.expression e).compile env style).result := by
  -- The names of the parts do not show how far down these are.
  have hdeep := Expression.render_relocate (s := ⟨style.isLiteral, ⟨none, []⟩, env⟩)
    (fun i => carries_sink_column n i style.isLiteral env) e (carries_sink n)
  rw [compile, Outcome.bind_result, render_lone, hdeep, Outcome.mapResult_result]
  cases (e.render ⟨style.isLiteral, ⟨none, []⟩, env⟩ ⟨none, [1]⟩).result with
  | error failure => rfl
  | ok p => exact finish_relocate (sink_injective n) style.isExpanded p

/-- **The compiler writes the frame.** A nest is compiled to its frame, percent signs doubled once,
around what the operand alone is compiled to, with the same parameters. -/
theorem compile_around (env : Environment) (style : Style) {t : TimeNest} (h : t.IsFree)
    (e : Expression) :
    ((Statement.expression (t.around e)).compile env style).result =
      ((Statement.expression e).compile env style).result.map t.frame.finished := by
  rw [← finish_below env style t.depth e, compile, Outcome.bind_result, render_lone,
    render_around h]
  cases (e.render ⟨style.isLiteral, ⟨none, []⟩, env⟩
      ((⟨none, [1]⟩ : Place).below (List.replicate t.depth 0))).result with
  | error failure => rfl
  | ok p => exact finish_pieces t style.isExpanded p

/-! ## Compiler and query -/

/-- **One doubling.** Compiling a nest around a text gives what the query makes of the text, with
every percent sign doubled once. -/
theorem compile_text_eq_query (env : Environment) (style : Style) (c : Context zones) {t : TimeNest}
    (h : t.IsFree) (s : String) :
    ∃ e sql, t.expression (.value (.text s)) = .ok e ∧
      (t.throughQuery ⟨.doris, c⟩ s).result = .ok sql ∧
      ((Statement.expression e).compile env style).result =
        .ok ⟨Text.escapePercents sql, []⟩ := by
  refine ⟨t.around (.text s .untyped), t.frame.fill s, expression_eq rfl t,
    throughQuery_result _ s t, ?_⟩
  have hoperand : ((Statement.expression (.text s .untyped)).compile env style).result =
      .ok ⟨Text.escapePercents s, []⟩ := by
    simp [compile, Statement.render, Expression.render, Outcome.silent, Pieces.finish,
      Pieces.finishFrom, Piece.finish, Except.map, Text.concat]
  rw [compile_around env style h, hoperand, Frame.escapePercents_fill]
  rfl

/-- An operand that holds the placeholder and percent signs, and an interval that looks like a
parameter. -/
theorem compile_hostile_text :
    (moved true (grouped .month true operand) "1 %s").IsFree ∧
      ∃ e, (moved true (grouped .month true operand) "1 %s").expression
          (.value (.text "%s __doris_operand__")) = .ok e ∧
        ((Statement.expression e).compile [] {}).result =
          .ok ⟨Text.escapePercents ("DATE_SUB(CAST(DATE_FORMAT(%s __doris_operand__, " ++
            "'%Y-%m-01T00:00:00.000') AS DATETIME), INTERVAL 1 %s)"), []⟩ := by
  have hfree : (moved true (grouped .month true operand) "1 %s").IsFree :=
    ⟨by decide +kernel, trivial⟩
  obtain ⟨e, sql, he, hsql, hcompiled⟩ :=
    compile_text_eq_query [] {} (⟨"UTC", .null, by decide +kernel⟩ : Context Zone.excerpt) hfree
      "%s __doris_operand__"
  refine ⟨hfree, e, he, ?_⟩
  have hfill : (moved true (grouped .month true operand) "1 %s").frame.fill
      "%s __doris_operand__" = "DATE_SUB(CAST(DATE_FORMAT(%s __doris_operand__, " ++
        "'%Y-%m-01T00:00:00.000') AS DATETIME), INTERVAL 1 %s)" := by
    decide +kernel
  rw [throughQuery_result, hfill] at hsql
  rw [hcompiled, ← Except.ok.inj hsql]

/-- **Filling in and compiling commute.** If an operand is compiled to a text with parameters, so is
a nest around it, with the same parameters in the same order; and with whatever texts they are
filled in, what comes out is what the query makes of the operand filled in with the same texts. -/
theorem fill_compile_eq_query (env : Environment) (style : Style) (c : Context zones) {t : TimeNest}
    (h : t.IsFree) {e : Expression} {compiled : Compiled} {k : Nat}
    (hcompiled : ((Statement.expression e).compile env style).result = .ok compiled)
    (hslots : Text.slots? compiled.sql = some k) :
    ∃ e' compiled', t.expression (.expression e) = .ok e' ∧
      ((Statement.expression e').compile env style).result = .ok compiled' ∧
      compiled'.parameters = compiled.parameters ∧
      Text.slots? compiled'.sql = some k ∧
      ∀ args : List String, args.length = k →
        ∃ filled sql, Text.fill? compiled.sql args = some filled ∧
          (t.throughQuery ⟨.doris, c⟩ filled).result = .ok sql ∧
          Text.fill? compiled'.sql args = some sql := by
  refine ⟨t.around e, t.frame.finished compiled, expression_eq rfl t, ?_, rfl,
    Text.slots?_surround _ _ hslots, ?_⟩
  · rw [compile_around env style h, hcompiled]
    rfl
  · intro args hlength
    obtain ⟨filled, hfilled⟩ := Text.exists_fill?_of_slots? (hlength ▸ hslots)
    exact ⟨filled, t.frame.fill filled, hfilled, throughQuery_result _ filled t,
      Text.fill?_surround _ _ hfilled⟩

/-- The patterns and the interval do not take the parameter of a value. -/
theorem fill_compile_parameter :
    ∃ e compiled, (moved false (grouped .week false operand) "1 %s").expression
        (.expression (.parameter "day" (.text "x"))) = .ok e ∧
      ((Statement.expression e).compile [] {}).result = .ok compiled ∧
      compiled.parameters = [("day_1", .text "x")] ∧ Text.slots? compiled.sql = some 1 := by
  have hfree : (moved false (grouped .week false operand) "1 %s").IsFree :=
    ⟨by decide +kernel, trivial⟩
  have hoperand : ((Statement.expression (.parameter "day" (.text "x"))).compile [] {}).result =
      .ok ⟨"%s", [("day_1", .text "x")]⟩ := rfl
  obtain ⟨e, compiled, he, hcompiled, hparameters, hslots, -⟩ :=
    fill_compile_eq_query [] {} (⟨"UTC", .null, by decide +kernel⟩ : Context Zone.excerpt) hfree
      hoperand rfl
  exact ⟨e, compiled, he, hcompiled, hparameters, hslots⟩

end TimeNest

end Statement

end SqlDialect
