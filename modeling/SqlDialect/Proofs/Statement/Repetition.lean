import SqlDialect.Proofs.Text.Replacement
import SqlDialect.Statement.Naming

/-!
# Pieces that stand in a statement twice

A name gets its number, and its short form, where it first comes up, and keeps them. So pieces that
come up again, after all names in them are given, are finished as they were the first time: the same
text, the same parameters, and no new names.

`Naming.Extends` orders the namings by what they give, `Naming.Settles` says of a step of the pass
that it only adds to the names and does not change when it is taken again, and `Pieces.run` is the
pass together with the names at its end.

Main statements: `settles_resolve`, by which names are kept; `settles_run`, by which pieces come out
again as they were; and `finish_wrap`, by which finishing an operand that is wrapped in a rule gives
the rule with the finished text of the operand in each place of the placeholder.
-/

namespace SqlDialect.Statement

namespace Naming

/-! ## Names that are kept -/

/-- What is given in `n` is given in `m`, too, and is the same. -/
structure Extends (n m : Naming) : Prop where
  numbers : ∀ key k, n.numbers.lookup key = some k → m.numbers.lookup key = some k
  cuts : ∀ key short, n.cuts.lookup key = some short → m.cuts.lookup key = some short

theorem Extends.refl (n : Naming) : n.Extends n :=
  ⟨fun _ _ h => h, fun _ _ h => h⟩

theorem Extends.trans {a b c : Naming} (h : a.Extends b) (h' : b.Extends c) : a.Extends c :=
  ⟨fun key k hk => h'.numbers key k (h.numbers key k hk),
    fun key short hs => h'.cuts key short (h.cuts key short hs)⟩

/-- A step adds to the names, and taken again, with its names given, it gives the same and adds
nothing. -/
structure Settles {α : Type} (step : Naming → Except Failure (α × Naming)) : Prop where
  grows : ∀ {n m : Naming} {a : α}, step n = .ok (a, m) → n.Extends m
  again : ∀ {n m : Naming} {a : α}, step n = .ok (a, m) → ∀ k, m.Extends k → step k = .ok (a, k)

/-- What does not look at the names settles. -/
theorem settles_map {α β : Type} (r : Except Failure α) (f : α → β) :
    Settles fun n => r.map fun a => (f a, n) := by
  cases r with
  | error e => constructor <;> exact fun h => (nomatch h)
  | ok a =>
    constructor <;> intro n m b h <;> cases h
    · exact .refl n
    · exact fun _ _ => rfl

theorem settles_pure {α : Type} (a : α) : Settles fun n => .ok (a, n) :=
  settles_map (.ok a) id

/-- One settling step after another settles. -/
theorem Settles.bind {α β : Type} {first : Naming → Except Failure (α × Naming)}
    {next : α → Naming → Except Failure (β × Naming)} (hfirst : Settles first)
    (hnext : ∀ a, Settles (next a)) :
    Settles fun n => (first n).bind fun done => next done.1 done.2 := by
  constructor
  · intro n m b h
    obtain ⟨⟨a, mid⟩, ha, hb⟩ := except_bind_eq_ok_iff.mp h
    exact (hfirst.grows ha).trans ((hnext a).grows hb)
  · intro n m b h k hk
    obtain ⟨⟨a, mid⟩, ha, hb⟩ := except_bind_eq_ok_iff.mp h
    have hmid := ((hnext a).grows hb).trans hk
    exact except_bind_eq_ok_iff.mpr ⟨(a, k), hfirst.again ha k hmid, (hnext a).again hb k hk⟩

/-- A new entry in front leaves what the others give, if its key was not among them. -/
theorem lookup_cons_of_some {α β : Type} [BEq α] [LawfulBEq α] {entries : List (α × β)} {new key : α}
    {value b : β} (hnew : entries.lookup new = none) (h : entries.lookup key = some value) :
    ((new, b) :: entries).lookup key = some value := by
  have hne : key ≠ new := by
    rintro rfl
    rw [hnew] at h
    cases h
  rw [List.lookup_cons, beq_false_of_ne hne, h]

theorem lookup_number (n : Naming) (base : String) (mark : Mark) :
    (n.number base mark).2.numbers.lookup (base, mark) = some (n.number base mark).1 := by
  unfold number
  cases hlookup : n.numbers.lookup (base, mark) with
  | some k => exact hlookup
  | none => simp

theorem settles_number (base : String) (mark : Mark) : Settles fun n => .ok (n.number base mark) := by
  refine ⟨fun {n m k} h => ?_, fun {n m k} h last hlast => ?_⟩
  · obtain rfl : (n.number base mark).2 = m := congrArg Prod.snd (Except.ok.inj h)
    unfold number
    cases hlookup : n.numbers.lookup (base, mark) with
    | some k => exact .refl n
    | none => exact ⟨fun key k hk => lookup_cons_of_some hlookup hk, fun _ _ h => h⟩
  · have hgiven := lookup_number n base mark
    rw [Except.ok.inj h] at hgiven
    rw [number_fst_of_mem (hlast.numbers _ _ hgiven)]

theorem settles_spell (name : Name) : Settles fun n => .ok (n.spell name) := by
  induction name with
  | nil => exact settles_pure ""
  | cons part rest ih =>
    cases part with
    | text s => exact ih.bind fun more => settles_pure (s ++ more)
    | numbered base mark =>
      exact (settles_number base mark).bind fun k =>
        ih.bind fun more => settles_pure (base ++ "_" ++ Text.ofNat k ++ more)

/-- A short form that is there is used. -/
theorem cut_of_lookup {n : Naming} {kind : NameKind} {name : Name} {spelled short : String}
    (hlong : ¬ spelled.toList.length ≤ maxLength) (h : n.cuts.lookup (kind, name) = some short) :
    n.cut kind name spelled = (short, n) := by
  rw [cut, if_neg hlong, h]

theorem lookup_cut (n : Naming) (kind : NameKind) (name : Name) {spelled : String}
    (hlong : ¬ spelled.toList.length ≤ maxLength) :
    (n.cut kind name spelled).2.cuts.lookup (kind, name) = some (n.cut kind name spelled).1 := by
  unfold cut
  rw [if_neg hlong]
  cases hlookup : n.cuts.lookup (kind, name) with
  | some short => exact hlookup
  | none => simp

theorem settles_cut (kind : NameKind) (name : Name) (spelled : String) :
    Settles fun n => .ok (n.cut kind name spelled) := by
  by_cases hlong : spelled.toList.length ≤ maxLength
  · have hcut (n : Naming) : n.cut kind name spelled = (spelled, n) := if_pos hlong
    simp only [hcut]
    exact settles_pure spelled
  · refine ⟨fun {n m short} h => ?_, fun {n m short} h last hlast => ?_⟩
    · obtain rfl : (n.cut kind name spelled).2 = m := congrArg Prod.snd (Except.ok.inj h)
      unfold cut
      rw [if_neg hlong]
      cases hlookup : n.cuts.lookup (kind, name) with
      | some short => exact .refl n
      | none => exact ⟨fun _ _ h => h, fun key short hs => lookup_cons_of_some hlookup hs⟩
    · have hgiven := lookup_cut n kind name hlong
      rw [Except.ok.inj h] at hgiven
      rw [cut_of_lookup hlong (hlast.cuts _ _ hgiven)]

/-- **Names are kept.** A name that was resolved once is resolved to the same from then on. -/
theorem settles_resolve (kind : NameKind) (name : Name) :
    Settles fun n => .ok (n.resolve kind name) :=
  (settles_spell name).bind fun spelled => settles_cut kind name spelled

end Naming

open Naming (Settles settles_map settles_pure settles_resolve)

/-! ## Pieces again -/

/-- A piece that was finished once is finished the same from then on. -/
theorem Piece.settles_finish (isExpanded : Bool) (piece : Piece) :
    Settles fun n => piece.finish isExpanded n := by
  cases piece with
  | text s => exact settles_pure (⟨s, []⟩ : Compiled)
  | fixed given value => exact settles_pure (⟨"%s", [(given, value)]⟩ : Compiled)
  | reserve kind name =>
    exact (settles_resolve kind name).bind fun _ => settles_pure (⟨"", []⟩ : Compiled)
  | name kind name =>
    exact (settles_resolve kind name).bind fun s =>
      settles_map (Identifier.written s) fun w => (⟨w, []⟩ : Compiled)
  | parameter name value =>
    exact (settles_resolve .parameter name).bind fun s => settles_pure (⟨"%s", [(s, value)]⟩ : Compiled)
  | elements name isExcluded values =>
    exact (settles_resolve .parameter name).bind fun s =>
      settles_pure (finishElements isExpanded isExcluded s values)

namespace Pieces

/-- The texts and the parameters of pieces, and the names at the end. -/
def run (isExpanded : Bool) (n : Naming) : Pieces → Except Failure (List Compiled × Naming)
  | [] => .ok ([], n)
  | piece :: rest =>
    (piece.finish isExpanded n).bind fun done =>
      (run isExpanded done.2 rest).bind fun more => .ok (done.1 :: more.1, more.2)

theorem finishFrom_eq_run (isExpanded : Bool) (n : Naming) (p : Pieces) :
    finishFrom isExpanded n p = (run isExpanded n p).map Prod.fst := by
  induction p generalizing n with
  | nil => rfl
  | cons piece rest ih =>
    rw [finishFrom, run]
    cases piece.finish isExpanded n with
    | error e => rfl
    | ok done =>
      show (finishFrom isExpanded done.2 rest).map _ = ((run isExpanded done.2 rest).map _).map _
      rw [ih, except_map_map, except_map_map]

/-- Pieces after others go on with the names of these. -/
theorem run_append (isExpanded : Bool) (n : Naming) (p q : Pieces) :
    run isExpanded n (p ++ q) = (run isExpanded n p).bind fun front =>
      (run isExpanded front.2 q).map fun back => (front.1 ++ back.1, back.2) := by
  induction p generalizing n with
  | nil =>
    show run isExpanded n q = (run isExpanded n q).map id
    cases run isExpanded n q <;> rfl
  | cons piece rest ih =>
    rw [List.cons_append, run, run]
    cases piece.finish isExpanded n with
    | error e => rfl
    | ok done =>
      show (run isExpanded done.2 (rest ++ q)).map _ = ((run isExpanded done.2 rest).map _).bind _
      rw [ih]
      cases run isExpanded done.2 rest with
      | error e => rfl
      | ok front => exact except_map_map _ _ _

/-- **Pieces again.** Pieces that were finished once are finished the same from then on. -/
theorem settles_run (isExpanded : Bool) (p : Pieces) : Settles fun n => run isExpanded n p := by
  induction p with
  | nil => exact settles_pure []
  | cons piece rest ih =>
    exact (piece.settles_finish isExpanded).bind fun c => ih.bind fun more => settles_pure (c :: more)

/-! ## Operands in their places -/

/-- Finished pieces one after another. -/
def inSequence (parts : List Compiled) : Compiled :=
  ⟨Text.concat (parts.map Compiled.sql), parts.flatMap Compiled.parameters⟩

theorem finish_eq_ok_iff {isExpanded : Bool} {p : Pieces} {c : Compiled} :
    finish isExpanded p = .ok c ↔
      ∃ parts m, run isExpanded {} p = .ok (parts, m) ∧ inSequence parts = c := by
  rw [finish, finishFrom_eq_run, except_map_map]
  cases run isExpanded {} p with
  | error e => exact ⟨fun h => (nomatch h), fun ⟨_, _, h, _⟩ => (nomatch h)⟩
  | ok done =>
    refine ⟨fun h => ⟨done.1, done.2, rfl, Except.ok.inj h⟩, ?_⟩
    rintro ⟨parts, m, h, rfl⟩
    cases h
    rfl

/-- An operand between texts is finished the same each time. -/
theorem run_joined {isExpanded : Bool} {n m : Naming} {operand : Pieces} {parts : List Compiled}
    (h : run isExpanded n operand = .ok (parts, m)) (segments : List (List Char)) :
    ∃ all last, run isExpanded n
        (joined operand (segments.map fun segment => [.text (String.ofList segment)])) =
          .ok (all, last) ∧
      (inSequence all).sql.toList = Text.joinSegments (inSequence parts).sql.toList segments ∧
      (inSequence all).parameters =
        (List.replicate (segments.length - 1) (inSequence parts).parameters).flatten := by
  induction segments generalizing n with
  | nil => exact ⟨[], n, rfl, rfl, rfl⟩
  | cons segment rest ih =>
    cases rest with
    | nil =>
      refine ⟨[⟨String.ofList segment, []⟩], n, rfl, ?_, rfl⟩
      simp [inSequence, Text.concat, Text.joinSegments]
    | cons next rest =>
      have hagain := (settles_run isExpanded operand).again h m (.refl m)
      obtain ⟨all, last, hrun, hsql, hparameters⟩ := ih hagain
      refine ⟨⟨String.ofList segment, []⟩ :: (parts ++ all), last, ?_, ?_, ?_⟩
      · show (run isExpanded n (operand ++ joined operand _)).bind _ = _
        rw [run_append, h]
        show ((run isExpanded m (joined operand _)).map _).bind _ = _
        rw [hrun]
        rfl
      · simp only [inSequence, List.map_cons, List.map_append, Text.concat, Text.concat_append]
          at hsql ⊢
        simp [Text.joinSegments, hsql]
      · simp only [inSequence] at hparameters ⊢
        simp [hparameters, List.replicate_succ]

/-- **An operand in its places.** A rule around an operand is finished to the text of the rule,
percent signs doubled, in which the finished operand stands for each placeholder, with the
parameters of the operand as often. -/
theorem finish_wrap {isExpanded : Bool} {operand : Pieces} {c : Compiled}
    (h : finish isExpanded operand = .ok c) (rule : String) :
    finish isExpanded (wrap rule operand) =
      .ok ⟨Text.replace placeholder c.sql (Text.escapePercents rule),
        (List.replicate (Text.occurrences placeholder.toList (Text.escapePercents rule).toList)
          c.parameters).flatten⟩ := by
  obtain ⟨parts, m, hrun, rfl⟩ := finish_eq_ok_iff.mp h
  obtain ⟨all, last, hall, hsql, hparameters⟩ := run_joined hrun
    (Text.segments placeholder.toList (Text.doublePercents rule.toList))
  have htext : (inSequence all).sql =
      Text.replace placeholder (inSequence parts).sql (Text.escapePercents rule) := by
    rw [← String.toList_inj, hsql, Text.joinSegments_segments, Text.toList_replace,
      Text.escapePercents, String.toList_ofList]
  refine finish_eq_ok_iff.mpr ⟨all, last, hall, ?_⟩
  rw [← htext, Text.occurrences, Text.escapePercents, String.toList_ofList, ← hparameters]

end Pieces

end SqlDialect.Statement
