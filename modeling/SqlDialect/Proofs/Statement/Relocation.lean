import SqlDialect.Statement.Naming

/-!
# Names do not depend on places

A generated name is for a mark, mostly a place in the statement. Which place it is does not show in
the finished text: a number is given for each new mark, so it only matters which marks are the same.
Moving every mark by an injective function of places therefore changes nothing, and a part of a
statement has the same names wherever it stands, as long as nothing before it takes numbers.

The proof is a simulation. `Naming.relocate` moves the marks of the numbers given so far; each step
of the pass over the pieces keeps the two namings in step, and writes the same text.

Main statement: `finish_relocate`.
-/

namespace SqlDialect.Statement

/-! ## Moving marks -/

/-- A mark with its place moved. -/
def Mark.relocate (f : Place → Place) : Mark → Mark
  | .place p => .place (f p)
  | mark => mark

/-- A part of a name with its mark moved. -/
def NamePart.relocate (f : Place → Place) : NamePart → NamePart
  | .text s => .text s
  | .numbered base mark => .numbered base (mark.relocate f)

/-- A name with its marks moved. -/
def Name.relocate (f : Place → Place) (name : Name) : Name :=
  name.map (NamePart.relocate f)

/-- A piece with its marks moved. -/
def Piece.relocate (f : Place → Place) : Piece → Piece
  | .text s => .text s
  | .reserve kind wanted => .reserve kind (Name.relocate f wanted)
  | .name kind wanted => .name kind (Name.relocate f wanted)
  | .parameter wanted value => .parameter (Name.relocate f wanted) value
  | .fixed given value => .fixed given value
  | .elements wanted isExcluded values => .elements (Name.relocate f wanted) isExcluded values

/-- The numbers and short forms given so far, for the moved marks. -/
def Naming.relocate (f : Place → Place) (n : Naming) : Naming where
  numbers := n.numbers.map fun entry => ((entry.1.1, entry.1.2.relocate f), entry.2)
  cuts := n.cuts.map fun entry => ((entry.1.1, Name.relocate f entry.1.2), entry.2)

variable {f : Place → Place}

theorem Mark.relocate_injective (hf : Function.Injective f) :
    Function.Injective (Mark.relocate f) := by
  intro a b h
  cases a <;> cases b <;> simp_all [Mark.relocate, hf.eq_iff]

theorem NamePart.relocate_injective (hf : Function.Injective f) :
    Function.Injective (NamePart.relocate f) := by
  intro a b h
  cases a <;> cases b <;> simp_all [NamePart.relocate, (Mark.relocate_injective hf).eq_iff]

theorem Name.relocate_injective (hf : Function.Injective f) :
    Function.Injective (Name.relocate f) := fun _ _ h =>
  (List.map_inj_right (NamePart.relocate_injective hf)).mp h

/-- Looking up a moved key among moved keys finds what the key itself finds. -/
theorem lookup_map_of_injective {α β γ : Type} [BEq α] [LawfulBEq α] [BEq β] [LawfulBEq β]
    {g : α → β} (hg : Function.Injective g) (entries : List (α × γ)) (key : α) :
    (entries.map fun entry => (g entry.1, entry.2)).lookup (g key) = entries.lookup key := by
  induction entries with
  | nil => rfl
  | cons entry rest ih =>
    obtain ⟨k, v⟩ := entry
    rw [List.map_cons, List.lookup_cons, List.lookup_cons, ih]
    by_cases h : key = k
    · rw [h, beq_self_eq_true, beq_self_eq_true]
    · rw [beq_false_of_ne h, beq_false_of_ne fun e => h (hg e)]

namespace Naming

theorem used_relocate (n : Naming) (base : String) : (n.relocate f).used base = n.used base := by
  simp [used, relocate, List.countP_map, Function.comp_def]

/-- A moved mark gets the number that the mark gets. -/
theorem number_relocate (hf : Function.Injective f) (n : Naming) (base : String) (mark : Mark) :
    (n.relocate f).number base (mark.relocate f) =
      ((n.number base mark).1, (n.number base mark).2.relocate f) := by
  have hg : Function.Injective fun key : String × Mark => (key.1, key.2.relocate f) := by
    rintro ⟨b, m⟩ ⟨b', m'⟩ h
    obtain ⟨hb, hm⟩ := Prod.mk.inj h
    exact Prod.ext hb (Mark.relocate_injective hf hm)
  have hlookup : (n.relocate f).numbers.lookup (base, mark.relocate f) =
      n.numbers.lookup (base, mark) := lookup_map_of_injective hg n.numbers (base, mark)
  unfold number
  rw [hlookup, used_relocate]
  cases n.numbers.lookup (base, mark) with
  | some k => rfl
  | none => rfl

/-- A moved name has the same spelling. -/
theorem spell_relocate (hf : Function.Injective f) (n : Naming) (name : Name) :
    (n.relocate f).spell (Name.relocate f name) =
      ((n.spell name).1, (n.spell name).2.relocate f) := by
  induction name generalizing n with
  | nil => rfl
  | cons part rest ih =>
    cases part with
    | text s =>
      simp only [Name.relocate, List.map_cons, NamePart.relocate, spell] at ih ⊢
      rw [ih]
    | numbered base mark =>
      simp only [Name.relocate, List.map_cons, NamePart.relocate, spell] at ih ⊢
      rw [number_relocate hf, ih]

theorem cut_relocate (hf : Function.Injective f) (n : Naming) (kind : NameKind) (name : Name)
    (spelled : String) :
    (n.relocate f).cut kind (Name.relocate f name) spelled =
      ((n.cut kind name spelled).1, (n.cut kind name spelled).2.relocate f) := by
  have hg : Function.Injective fun key : NameKind × Name => (key.1, Name.relocate f key.2) := by
    rintro ⟨k, m⟩ ⟨k', m'⟩ h
    obtain ⟨hk, hm⟩ := Prod.mk.inj h
    exact Prod.ext hk (Name.relocate_injective hf hm)
  have hlookup : (n.relocate f).cuts.lookup (kind, Name.relocate f name) =
      n.cuts.lookup (kind, name) := lookup_map_of_injective hg n.cuts (kind, name)
  have hcount : (n.relocate f).cuts.countP (fun entry => entry.1.1 = kind) =
      n.cuts.countP (fun entry => entry.1.1 = kind) := by
    simp [relocate, List.countP_map, Function.comp_def]
  unfold cut
  rw [hlookup, hcount]
  split
  · rfl
  · cases n.cuts.lookup (kind, name) with
    | some short => rfl
    | none => rfl

theorem resolve_relocate (hf : Function.Injective f) (n : Naming) (kind : NameKind) (name : Name) :
    (n.relocate f).resolve kind (Name.relocate f name) =
      ((n.resolve kind name).1, (n.resolve kind name).2.relocate f) := by
  simp only [resolve]
  rw [spell_relocate hf, cut_relocate hf]

end Naming

/-! ## Finishing -/

/-- A moved piece is finished as the piece itself, and the namings stay in step. -/
theorem Piece.finish_relocate (hf : Function.Injective f) (isExpanded : Bool) (n : Naming)
    (piece : Piece) :
    (piece.relocate f).finish isExpanded (n.relocate f) =
      (piece.finish isExpanded n).map fun done => (done.1, done.2.relocate f) := by
  cases piece with
  | text s => rfl
  | reserve kind name => simp [relocate, finish, Naming.resolve_relocate hf, Except.map]
  | name kind name =>
    simp only [relocate, finish, Naming.resolve_relocate hf]
    cases Identifier.written (n.resolve kind name).1 with
    | error e => rfl
    | ok w => rfl
  | parameter name value => simp [relocate, finish, Naming.resolve_relocate hf, Except.map]
  | fixed name value => rfl
  | elements name isExcluded values =>
    simp [relocate, finish, Naming.resolve_relocate hf, Except.map]

theorem finishFrom_relocate (hf : Function.Injective f) (isExpanded : Bool) (n : Naming)
    (pieces : Pieces) :
    Pieces.finishFrom isExpanded (n.relocate f) (pieces.map (Piece.relocate f)) =
      Pieces.finishFrom isExpanded n pieces := by
  induction pieces generalizing n with
  | nil => rfl
  | cons piece rest ih =>
    simp only [List.map_cons, Pieces.finishFrom]
    rw [Piece.finish_relocate hf]
    cases piece.finish isExpanded n with
    | error e => rfl
    | ok done =>
      obtain ⟨c, m⟩ := done
      simp only [Except.map]
      rw [ih m]

/-- **Names do not depend on places.** Moved pieces are finished as the pieces themselves. -/
theorem finish_relocate (hf : Function.Injective f) (isExpanded : Bool) (pieces : Pieces) :
    Pieces.finish isExpanded (pieces.map (Piece.relocate f)) = Pieces.finish isExpanded pieces := by
  have h := finishFrom_relocate hf isExpanded {} pieces
  show (Pieces.finishFrom isExpanded (Naming.relocate f {}) _).map _ = _
  rw [h]
  rfl

end SqlDialect.Statement
