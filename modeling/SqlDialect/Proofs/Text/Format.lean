import SqlDialect.Text.Replace

/-!
# Texts with parameters

In a finished statement a percent sign starts one of two things: a second percent sign makes it a
percent sign of the text, an `s` makes it the place of a parameter. `Format.ofChars?` reads a text
in this way from the left to the right; a percent sign before anything else belongs to no such text.
`slots?` counts the parameters, and `fill?` puts a text in the place of each, in order.

Main statements: `ofChars?_append`, by which the reading of a text is not disturbed by what follows
it, and `slots?_surround` and `fill?_surround`, by which text whose percent signs are doubled can be
put on both sides without a change to the parameters.
-/

namespace SqlDialect.Text

/-- A part of a text with parameters: a character, or the place of a parameter. -/
inductive FormatPart where
  | char (c : Char)
  | slot
  deriving DecidableEq, Repr

/-- A text with parameters. -/
abbrev Format := List FormatPart

namespace Format

/-- Reads a text with parameters. -/
def ofChars? : List Char → Option Format
  | [] => some []
  | '%' :: '%' :: rest => (ofChars? rest).map (.char '%' :: ·)
  | '%' :: 's' :: rest => (ofChars? rest).map (.slot :: ·)
  | '%' :: _ => none
  | c :: rest => (ofChars? rest).map (.char c :: ·)

/-- A text without parameters. -/
def literal (s : List Char) : Format :=
  s.map .char

/-- The number of parameters. -/
def slots (f : Format) : Nat :=
  f.count .slot

/-- The text with a text in the place of each parameter. Their numbers have to be the same. -/
def fill? : Format → List String → Option (List Char)
  | [], [] => some []
  | [], _ :: _ => none
  | .char c :: rest, args => (fill? rest args).map (c :: ·)
  | .slot :: _, [] => none
  | .slot :: rest, arg :: args => (fill? rest args).map (arg.toList ++ ·)

theorem ofChars?_cons_of_ne {c : Char} (hc : c ≠ '%') (rest : List Char) :
    ofChars? (c :: rest) = (ofChars? rest).map (.char c :: ·) := by
  simp [ofChars?, hc]

/-- What follows a text does not change how the text is read. -/
theorem ofChars?_append {s : List Char} {f : Format} (h : ofChars? s = some f) (t : List Char) :
    ofChars? (s ++ t) = (ofChars? t).map (f ++ ·) := by
  fun_induction ofChars? s generalizing f with
  | case1 =>
    cases h
    simp
  | case2 rest ih =>
    obtain ⟨g, hg, rfl⟩ := Option.map_eq_some_iff.mp h
    simp [ofChars?, ih hg, Function.comp_def]
  | case3 rest ih =>
    obtain ⟨g, hg, rfl⟩ := Option.map_eq_some_iff.mp h
    simp [ofChars?, ih hg, Function.comp_def]
  | case4 => cases h
  | case5 c rest _ _ hc ih =>
    obtain ⟨g, hg, rfl⟩ := Option.map_eq_some_iff.mp h
    rw [List.cons_append, ofChars?_cons_of_ne hc, ih hg]
    simp [Function.comp_def]

/-- A text whose percent signs are doubled has no parameters. -/
theorem ofChars?_doublePercents (s : List Char) :
    ofChars? (doublePercents s) = some (literal s) := by
  induction s with
  | nil => rfl
  | cons c s ih =>
    by_cases hc : c = '%'
    · rw [doublePercents, if_pos hc, ofChars?, ih, hc]
      rfl
    · rw [doublePercents, if_neg hc, ofChars?_cons_of_ne hc, ih]
      rfl

@[simp] theorem slots_literal (s : List Char) : slots (literal s) = 0 := by
  simp [slots, literal, List.count_eq_zero]

@[simp] theorem slots_append (f g : Format) : slots (f ++ g) = slots f + slots g :=
  List.count_append

/-- There is a text for each parameter exactly if the numbers are the same. -/
theorem isSome_fill?_iff (f : Format) (args : List String) :
    (fill? f args).isSome ↔ args.length = slots f := by
  fun_induction fill? f args with
  | case1 => simp [slots]
  | case2 => simp [slots]
  | case3 args c rest ih => simpa [slots] using ih
  | case4 => simp [slots]
  | case5 rest arg args ih => simpa [slots] using ih

theorem fill?_literal_append (s : List Char) (f : Format) (args : List String) :
    fill? (literal s ++ f) args = (fill? f args).map (s ++ ·) := by
  induction s with
  | nil => simp [literal]
  | cons c s ih =>
    simp only [literal, List.map_cons, List.cons_append, fill?] at ih ⊢
    rw [ih, Option.map_map]
    rfl

theorem fill?_append_literal (f : Format) (s : List Char) (args : List String) :
    fill? (f ++ literal s) args = (fill? f args).map (· ++ s) := by
  fun_induction fill? f args with
  | case1 => simpa [fill?] using fill?_literal_append s [] []
  | case2 arg args => simpa [fill?] using fill?_literal_append s [] (arg :: args)
  | case3 args c rest ih => simp [fill?, ih, Function.comp_def]
  | case4 => simp [fill?]
  | case5 rest arg args ih => simp [fill?, ih, Function.comp_def]

end Format

/-! ## On strings -/

/-- The number of parameters of a text, if it is a text with parameters. -/
def slots? (s : String) : Option Nat :=
  (Format.ofChars? s.toList).map Format.slots

/-- The text with a text in the place of each parameter. -/
def fill? (s : String) (args : List String) : Option String :=
  ((Format.ofChars? s.toList).bind fun f => f.fill? args).map String.ofList

/-- The reading of a text between two texts whose percent signs are doubled. -/
theorem ofChars?_surround (left right : List Char) {s : List Char} {f : Format}
    (h : Format.ofChars? s = some f) :
    Format.ofChars? (doublePercents left ++ s ++ doublePercents right) =
      some (Format.literal left ++ f ++ Format.literal right) := by
  rw [List.append_assoc, Format.ofChars?_append (Format.ofChars?_doublePercents left),
    Format.ofChars?_append h, Format.ofChars?_doublePercents]
  simp

/-- **Parameters stay.** Text whose percent signs are doubled adds no parameters and takes none. -/
theorem slots?_surround (left right : String) {s : String} {k : Nat} (h : slots? s = some k) :
    slots? (escapePercents left ++ s ++ escapePercents right) = some k := by
  obtain ⟨f, hf, rfl⟩ := Option.map_eq_some_iff.mp h
  have hread := ofChars?_surround left.toList right.toList hf
  simp only [slots?, escapePercents, String.toList_append, String.toList_ofList, hread]
  simp

/-- **Parameters are filled in where they were.** Filling in a text between two texts whose percent
signs are doubled gives the filled text between the two texts themselves. -/
theorem fill?_surround (left right : String) {s : String} {args : List String} {filled : String}
    (h : fill? s args = some filled) :
    fill? (escapePercents left ++ s ++ escapePercents right) args =
      some (left ++ filled ++ right) := by
  obtain ⟨chars, hchars, rfl⟩ := Option.map_eq_some_iff.mp h
  obtain ⟨f, hf, hfill⟩ := Option.bind_eq_some_iff.mp hchars
  have hread := ofChars?_surround left.toList right.toList hf
  simp only [fill?, escapePercents, String.toList_append, String.toList_ofList, hread]
  rw [Option.bind_some, Format.fill?_append_literal, Format.fill?_literal_append, hfill]
  simp [String.ofList_append, String.append_assoc]

/-- A text for each parameter can be filled in. -/
theorem exists_fill?_of_slots? {s : String} {args : List String} (h : slots? s = some args.length) :
    ∃ filled, fill? s args = some filled := by
  obtain ⟨f, hf, hslots⟩ := Option.map_eq_some_iff.mp h
  obtain ⟨chars, hchars⟩ := Option.isSome_iff_exists.mp
    ((Format.isSome_fill?_iff f args).mpr hslots.symm)
  exact ⟨String.ofList chars, by simp [fill?, hf, hchars]⟩

end SqlDialect.Text

