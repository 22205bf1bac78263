import SqlDialect.Proofs.Statement.Relocation
import SqlDialect.Statement.Render

/-!
# Rendering at another place

An expression is rendered at a place, and its parameters are marked with places below it. At another
place it is rendered in the same way, only with the marks moved: `Carries f p q` says that `f` takes
every way down from `p` to the same way down from `q`. References to columns of the query go back to
the place of the column, which must not move.

Main statement: `render_relocate`.
-/

namespace SqlDialect.Statement

/-- The place at the end of a way down, the last step first. -/
def Place.below (p : Place) (way : List Nat) : Place :=
  { p with path := way ++ p.path }

/-- Everything below one place is taken to the same way below another. -/
def Carries (f : Place → Place) (p q : Place) : Prop :=
  ∀ way, f (p.below way) = q.below way

variable {f : Place → Place}

theorem Carries.here {p q : Place} (h : Carries f p q) : f p = q :=
  h []

theorem Carries.child {p q : Place} (h : Carries f p q) (i : Nat) :
    Carries f (p.child i) (q.child i) := by
  intro way
  have hway := h (way ++ [i])
  simpa [Place.below, Place.child] using hway

/-! ## Moved pieces -/

@[simp] theorem Piece.relocate_text (s : String) : (Piece.text s).relocate f = .text s := rfl

@[simp] theorem Pieces.isBlank_map_relocate (pieces : Pieces) :
    Pieces.isBlank (pieces.map (Piece.relocate f)) = pieces.isBlank := by
  rw [Pieces.isBlank, Pieces.isBlank, List.all_map]
  congr 1
  funext piece
  cases piece <;> rfl

theorem Pieces.map_joined (separator : Pieces) (parts : List Pieces) :
    (Pieces.joined separator parts).map (Piece.relocate f) =
      Pieces.joined (separator.map (Piece.relocate f)) (parts.map (List.map (Piece.relocate f))) := by
  induction parts with
  | nil => rfl
  | cons p rest ih =>
    cases rest with
    | nil => rfl
    | cons q rest =>
      simp only [List.map_cons, Pieces.joined, List.map_append] at ih ⊢
      rw [ih]

theorem Pieces.map_bracketedIf (needed : Bool) (pieces : Pieces) :
    (Pieces.bracketedIf needed pieces).map (Piece.relocate f) =
      Pieces.bracketedIf needed (pieces.map (Piece.relocate f)) := by
  cases needed <;> simp [Pieces.bracketedIf]

theorem Pieces.map_filter_isBlank (parts : List Pieces) :
    (parts.filter fun p => !p.isBlank).map (List.map (Piece.relocate f)) =
      (parts.map (List.map (Piece.relocate f))).filter fun p => !Pieces.isBlank p := by
  rw [List.filter_map]
  congr 2
  funext p
  simp

theorem map_wrap (rule : String) (operand : Pieces) :
    (wrap rule operand).map (Piece.relocate f) =
      wrap rule (operand.map (Piece.relocate f)) := by
  simp [wrap, Pieces.map_joined, Function.comp_def]

theorem map_unaryPieces (op : Operator) (operand : Pieces) :
    (unaryPieces op operand).map (Piece.relocate f) =
      unaryPieces op (operand.map (Piece.relocate f)) := by
  unfold unaryPieces
  split <;> simp

theorem map_binaryPieces (op : Operator) (left right : Pieces) :
    (binaryPieces op left right).map (Piece.relocate f) =
      binaryPieces op (left.map (Piece.relocate f)) (right.map (Piece.relocate f)) := by
  simp [binaryPieces]

theorem map_memberPieces (isExcluded : Bool) (operand elements : Pieces) :
    (memberPieces isExcluded operand elements).map (Piece.relocate f) =
      memberPieces isExcluded (operand.map (Piece.relocate f))
        (elements.map (Piece.relocate f)) := by
  rw [memberPieces, Pieces.map_bracketedIf, map_binaryPieces]
  rfl

theorem map_betweenPieces (isExcluded : Bool) (operand low high : Pieces) :
    (betweenPieces isExcluded operand low high).map (Piece.relocate f) =
      betweenPieces isExcluded (operand.map (Piece.relocate f)) (low.map (Piece.relocate f))
        (high.map (Piece.relocate f)) := by
  rw [betweenPieces, map_binaryPieces, map_binaryPieces]
  rfl

theorem map_castPieces (said : Option String) (isOperation : Bool) (operand : Pieces) :
    (castPieces said isOperation operand).map (Piece.relocate f) =
      castPieces said isOperation (operand.map (Piece.relocate f)) := by
  cases said with
  | none => exact Pieces.map_bracketedIf isOperation operand
  | some s => simp [castPieces]

/-! ## Moved calls -/

theorem Function.map_listed (arguments : List Pieces) :
    (Function.listed arguments).map (Piece.relocate f) =
      Function.listed (arguments.map (List.map (Piece.relocate f))) := by
  rw [Function.listed, Pieces.map_joined, Pieces.map_filter_isBlank]
  rfl

theorem Function.map_argumentList (arguments : List Pieces) :
    (Function.argumentList arguments).map (Piece.relocate f) =
      Function.argumentList (arguments.map (List.map (Piece.relocate f))) := by
  rw [Function.argumentList, Pieces.map_bracketedIf, Function.map_listed]
  rfl

theorem map_operationPieces (op : Operator) (operands : List Pieces) :
    (operationPieces op operands).map (Piece.relocate f) =
      operationPieces op (operands.map (List.map (Piece.relocate f))) := by
  unfold operationPieces
  split
  · simp [Function.map_argumentList]
  · rw [Pieces.map_joined, Pieces.map_filter_isBlank]
    rfl

theorem Function.map_special? (name : String) (arguments : List Pieces) :
    (Function.special? name arguments).map (List.map (Piece.relocate f)) =
      Function.special? name (arguments.map (List.map (Piece.relocate f))) := by
  simp only [Function.special?, List.isEmpty_map]
  repeat' split
  all_goals simp [Function.map_argumentList, Function.map_listed, Function.comp_def]

/-- A call of moved arguments. -/
theorem Function.map_written (name : String) (arguments : List Pieces) :
    (Function.written name arguments).map (List.map (Piece.relocate f)) =
      Function.written name (arguments.map (List.map (Piece.relocate f))) := by
  unfold Function.written
  rw [← Function.map_special?]
  cases Function.special? name arguments with
  | some pieces => rfl
  | none =>
    simp only [Option.map_none, Function.general]
    cases Function.writtenName name with
    | error e => rfl
    | ok w => simp [Except.map, Function.map_argumentList]

/-! ## Moved parts of expressions -/

theorem Scope.map_parameter (s : Scope) (base : String) {p q : Place} (h : f p = q)
    (value : Value) :
    (s.parameter (Name.ofParameter base (.place p)) value).map (Piece.relocate f) =
      s.parameter (Name.ofParameter base (.place q)) value := by
  subst h
  unfold Scope.parameter
  split <;> rfl

theorem Scope.map_elements (s : Scope) (base : String) {p q : Place} (h : f p = q)
    (isExcluded : Bool) (values : List Value) :
    (s.elements (Name.ofParameter base (.place p)) isExcluded values).map (Piece.relocate f) =
      s.elements (Name.ofParameter base (.place q)) isExcluded values := by
  subst h
  unfold Scope.elements
  split <;> rfl

/-- What the labels of a source start with is marked with the source, not with a place. -/
theorem Environment.relocate_head (env : Environment) (key : String) :
    Name.relocate f (env.head key) = env.head key := by
  unfold Environment.head
  repeat' split
  all_goals rfl

theorem Environment.map_qualifier (env : Environment) (key : String) :
    (env.qualifier key).map (List.map (Piece.relocate f)) = env.qualifier key := by
  unfold Environment.qualifier
  split
  · rfl
  · next t _ _ => cases Identifier.writtenIn t.schema t.name <;> rfl
  · next name _ _ => cases Identifier.written name <;> rfl
  · next name _ _ => cases Identifier.written name <;> rfl
  · simp [Except.map, Piece.relocate, Environment.relocate_head]
  · simp [Except.map, Piece.relocate, Environment.relocate_head]

theorem map_columnPieces (s : Scope) (source name : String) :
    (columnPieces s source name).map (List.map (Piece.relocate f)) =
      columnPieces s source name := by
  have hq := Environment.map_qualifier (f := f) s.environment source
  unfold columnPieces
  cases h : s.environment.qualifier source with
  | error e => rfl
  | ok qualifier =>
    rw [h] at hq
    have hfixed : qualifier.map (Piece.relocate f) = qualifier := Except.ok.inj hq
    cases Identifier.written name with
    | error e => rfl
    | ok column =>
      show Except.ok _ = Except.ok _
      rw [List.map_append, hfixed]
      rfl

/-! ## Rendering -/

namespace Expression

variable {s : Scope}

mutual

/-- **Places only show in marks.** At another place an expression is rendered in the same way, with
the marks moved along. -/
theorem render_relocate (hcol : ∀ i, Carries f (s.columnPlace i) (s.columnPlace i)) :
    ∀ (e : Expression) {p q : Place}, Carries f p q →
      e.render s q = (e.render s p).mapResult (List.map (Piece.relocate f))
  | .column source name _, _, _, _ => by
    simp only [render, Outcome.mapResult_silent, map_columnPieces]
  | .text _ _, _, _, _ | .null, _, _, _ | .truth _, _, _, _ | .labelRef _, _, _, _ => by
    simp [render]
  | .bareColumn name, _, _, _ => by
    simp only [render, Outcome.mapResult_silent]
    cases Identifier.written name <;> rfl
  | .parameter base value, _, _, h => by
    simp only [render, Outcome.mapResult_ok, s.map_parameter base h.here]
  | .timeGrouped g e, _, _, h => by
    simp only [render, Outcome.mapResult_bind, Outcome.mapResult_mapResult,
      render_relocate hcol e (h.child 0), map_wrap]
  | .dateInterval isEarlier e interval, _, _, h => by
    simp only [render, Outcome.mapResult_mapResult, render_relocate hcol e (h.child 0), map_wrap]
  | .cast e type, _, _, h => by
    simp only [render, Outcome.mapResult_bind, Outcome.mapResult_mapResult,
      render_relocate hcol e (h.child 0), map_castPieces]
  | .call function arguments, _, _, h => by
    simp only [render, Outcome.mapResult_bind, Outcome.mapResult_silent,
      renderAll_relocate hcol arguments h 0 none, Outcome.bind_mapResult, Function.map_written]
  | .unary op e, _, _, h => by
    simp only [render, Outcome.mapResult_mapResult, render_relocate hcol e (h.child 0),
      map_unaryPieces, Pieces.map_bracketedIf]
  | .isTrue isNegated e, _, _, h => by
    simp only [render, Outcome.mapResult_mapResult, render_relocate hcol e (h.child 0)]
    cases isNegated <;> simp [map_unaryPieces]
  | .binary op a b, _, _, h => by
    simp only [render, Outcome.mapResult_bind, Outcome.bind_mapResult,
      Outcome.mapResult_mapResult, render_relocate hcol a (h.child 0),
      render_relocate hcol b (h.child 1), map_binaryPieces, Pieces.map_bracketedIf]
  | .operations op operands, _, _, h => by
    simp only [render, Outcome.mapResult_mapResult, renderAll_relocate hcol operands h 0 (some op),
      map_operationPieces]
  | .member isExcluded e base values, _, _, h => by
    simp only [render, Outcome.mapResult_mapResult, render_relocate hcol e (h.child 0),
      map_memberPieces, Pieces.map_bracketedIf, s.map_elements base h.here]
  | .between isExcluded e low high, _, _, h => by
    simp only [render, Outcome.mapResult_bind, Outcome.bind_mapResult,
      Outcome.mapResult_mapResult, render_relocate hcol e (h.child 0),
      render_relocate hcol low (h.child 1), render_relocate hcol high (h.child 2),
      map_betweenPieces, Pieces.map_bracketedIf]
  | .cases branches, _, _, h => by
    simp only [render, Outcome.mapResult_mapResult, renderBranches_relocate hcol branches h 0,
      List.map_append, List.map_cons, List.map_nil, Piece.relocate_text]
  | .label e _, _, _, h => by
    simp only [render, render_relocate hcol e (h.child 0)]
  | .columnRef i e, _, _, _ => by
    simp only [render]
    exact render_relocate hcol e (hcol i)

theorem renderAll_relocate (hcol : ∀ i, Carries f (s.columnPlace i) (s.columnPlace i)) :
    ∀ (es : List Expression) {p q : Place}, Carries f p q → ∀ (i : Nat) (outer : Option Operator),
      renderAll s q i outer es =
        (renderAll s p i outer es).mapResult (List.map (List.map (Piece.relocate f)))
  | [], _, _, _, _, _ => by simp [renderAll]
  | e :: rest, _, _, h, i, outer => by
    simp only [renderAll, Outcome.mapResult_bind, Outcome.bind_mapResult,
      Outcome.mapResult_mapResult, render_relocate hcol e (h.child i),
      renderAll_relocate hcol rest h (i + 1) outer, List.map_cons, Pieces.map_bracketedIf]

theorem renderBranches_relocate (hcol : ∀ i, Carries f (s.columnPlace i) (s.columnPlace i)) :
    ∀ (bs : Branches) {p q : Place}, Carries f p q → ∀ (i : Nat),
      renderBranches s q i bs =
        (renderBranches s p i bs).mapResult (List.map (Piece.relocate f))
  | .done, _, _, _, _ => by simp [renderBranches]
  | .otherwise result, _, _, h, i => by
    simp only [renderBranches, Outcome.mapResult_mapResult, render_relocate hcol result (h.child i),
      List.map_append, List.map_cons, List.map_nil, Piece.relocate_text]
  | .when condition result rest, _, _, h, i => by
    simp only [renderBranches, Outcome.mapResult_bind, Outcome.bind_mapResult,
      Outcome.mapResult_mapResult, render_relocate hcol condition (h.child i),
      render_relocate hcol result (h.child (i + 1)),
      renderBranches_relocate hcol rest h (i + 2), List.map_append, List.map_cons,
      Piece.relocate_text, Pieces.map_bracketedIf]

end

end Expression

end SqlDialect.Statement
