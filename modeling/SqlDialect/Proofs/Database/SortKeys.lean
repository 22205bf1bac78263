import Mathlib.Data.List.Basic
import Mathlib.Order.Lattice

/-!
# Reading orders of rows

How a database reads the order of rows that is written behind `ORDER BY`. An order is a row of keys
over one operand: whether the operand is missing, which counts as zero or one, or the operand
itself. Each key has a direction, and a key on the operand itself may say where missing values go,
if the database has words for that: the two grammars differ in nothing else, and without the words a
key that has them is not read. Rows are compared by the first key in which they differ.

What the operand is written as does not matter, since a key is recognised by what stands behind it.
Where no key says so, a database puts missing values where it likes: that is the parameter `rank`,
by which a missing value comes before or after another one.

Main statements: `read?_written`, by which an order is read back; `sorted_valueOrder_iff`, what rows
look like that are sorted with the missing values at one end; `compareAll_keysByMissing` and
`compareAll_keysByPlacement`, two ways to write that order.
-/

universe u v

namespace SqlDialect.Database

/-! ## Keys -/

inductive Direction where
  | ascending
  | descending
  deriving DecidableEq, Repr

/-- Where missing values go. -/
inductive Placement where
  | first
  | last
  deriving DecidableEq, Repr

/-- A key of an order: whether the operand is missing, or the operand itself. -/
inductive SortKey where
  | isMissing (direction : Direction)
  | value (direction : Direction) (placement : Option Placement)
  deriving DecidableEq, Repr

/-- What a database can read about where missing values go. -/
inductive Grammar where
  /-- There are words for it. -/
  | withPlacement
  /-- There are none. -/
  | withoutPlacement
  deriving DecidableEq, Repr

/-- Whether a key can be written in a grammar. -/
def Grammar.has : Grammar → SortKey → Bool
  | .withoutPlacement, .value _ (some _) => false
  | _, _ => true

/-- The word for a direction. -/
def Direction.word : Direction → String
  | .ascending => " ASC"
  | .descending => " DESC"

/-- The words for where missing values go. -/
def Placement.words : Option Placement → String
  | none => ""
  | some .first => " NULLS FIRST"
  | some .last => " NULLS LAST"

/-- The words of a key, which stand behind its operand. -/
def SortKey.words : SortKey → String
  | .isMissing direction => " IS NULL" ++ direction.word
  | .value direction placement => direction.word ++ Placement.words placement

/-- How a key over an operand is written, with others behind it. -/
def SortKey.written (operand : String) (key : SortKey) : List SortKey → String
  | [] => operand ++ key.words
  | next :: rest => operand ++ key.words ++ ", " ++ next.written operand rest

/-! ## Reading -/

/-- What stands behind a word. -/
def behind? (word : String) (s : List Char) : Option (List Char) :=
  word.toList.isPrefixOf? s

/-- Reads a direction, and gives it with what stands behind it. -/
def Direction.read? (s : List Char) : Option (Direction × List Char) :=
  match behind? " ASC" s, behind? " DESC" s with
  | some rest, _ => some (.ascending, rest)
  | none, some rest => some (.descending, rest)
  | none, none => none

/-- Reads where missing values go, if that is said. -/
def Placement.read (grammar : Grammar) (s : List Char) : Option Placement × List Char :=
  match grammar, behind? " NULLS FIRST" s, behind? " NULLS LAST" s with
  | .withPlacement, some rest, _ => (some .first, rest)
  | .withPlacement, none, some rest => (some .last, rest)
  | _, _, _ => (none, s)

/-- Reads the words of a key, and gives the key with what stands behind it. -/
def SortKey.readWords? (grammar : Grammar) (s : List Char) : Option (SortKey × List Char) :=
  match behind? " IS NULL" s with
  | some rest => (Direction.read? rest).map fun (direction, rest) => (.isMissing direction, rest)
  | none =>
    (Direction.read? s).map fun (direction, rest) =>
      (.value direction (Placement.read grammar rest).1, (Placement.read grammar rest).2)

/-- Reads keys over an operand up to the end, at most `n` of them. -/
def SortKey.readUpTo? (grammar : Grammar) (operand : String) :
    Nat → List Char → Option (List SortKey)
  | 0, _ => none
  | n + 1, s =>
    match (behind? operand s).bind (readWords? grammar) with
    | none => none
    | some (key, []) => some [key]
    | some (key, rest) => ((behind? ", " rest).bind (readUpTo? grammar operand n)).map (key :: ·)

/-- Reads a text as keys over an operand. No text has more keys than characters. -/
def SortKey.read? (grammar : Grammar) (operand sql : String) : Option (List SortKey) :=
  readUpTo? grammar operand sql.length sql.toList

theorem behind?_append (word : String) (rest : List Char) :
    behind? word (word.toList ++ rest) = some rest :=
  List.isPrefixOf?_eq_some_iff_append_eq.mpr rfl

theorem behind?_eq_none {word : String} {c : Char} {s : List Char}
    (hword : word.toList.head? = some c) (hs : s.head? ≠ some c) : behind? word s = none := by
  rw [Option.eq_none_iff_forall_ne_some]
  intro after h
  have happend : word.toList ++ after = s := List.isPrefixOf?_eq_some_iff_append_eq.mp h
  rw [← happend, List.head?_append, hword] at hs
  exact hs rfl

/-- Nothing is said about missing values where no blank follows. -/
theorem Placement.read_eq_none (grammar : Grammar) {s : List Char} (hs : s.head? ≠ some ' ') :
    Placement.read grammar s = (none, s) := by
  have hfirst : behind? " NULLS FIRST" s = none := behind?_eq_none rfl hs
  have hlast : behind? " NULLS LAST" s = none := behind?_eq_none rfl hs
  unfold Placement.read
  rw [hfirst, hlast]
  cases grammar <;> rfl

namespace SortKey

variable {grammar : Grammar}

/-- The words of a key are read back, whatever stands behind them without a blank. -/
theorem readWords?_words_append {key : SortKey} (h : grammar.has key = true) {rest : List Char}
    (hrest : rest.head? ≠ some ' ') :
    readWords? grammar (key.words.toList ++ rest) = some (key, rest) := by
  have hnone := Placement.read_eq_none grammar hrest
  rcases key with direction | ⟨direction, _ | placement⟩
  · cases direction <;> rfl
  · cases direction <;> exact congrArg (fun read => some (SortKey.value _ read.1, read.2)) hnone
  · cases grammar with
    | withPlacement => cases direction <;> cases placement <;> rfl
    | withoutPlacement => cases h

theorem readUpTo?_written (operand : String) {key : SortKey} {others : List SortKey} {n : Nat}
    (hkeys : ∀ k ∈ key :: others, grammar.has k = true) (hn : others.length < n) :
    readUpTo? grammar operand n (key.written operand others).toList = some (key :: others) := by
  induction others generalizing key n with
  | nil =>
    obtain ⟨n, rfl⟩ : ∃ m, n = m + 1 := ⟨n - 1, by omega⟩
    have hkey : readWords? grammar (key.words.toList ++ []) = some (key, []) :=
      readWords?_words_append (hkeys key List.mem_cons_self) (by simp)
    rw [List.append_nil] at hkey
    rw [written, String.toList_append, readUpTo?, behind?_append, Option.bind_some, hkey]
  | cons next rest ih =>
    obtain ⟨n, rfl⟩ : ∃ m, n = m + 1 := ⟨n - 1, by omega⟩
    rw [List.length_cons] at hn
    have hnext :
        readUpTo? grammar operand n (next.written operand rest).toList = some (next :: rest) :=
      ih (fun k hk => hkeys k (List.mem_cons_of_mem key hk)) (by omega)
    rw [written, String.toList_append, String.toList_append, String.toList_append,
      List.append_assoc, List.append_assoc, readUpTo?, behind?_append, Option.bind_some,
      readWords?_words_append (hkeys key List.mem_cons_self) (by simp)]
    -- Something stands behind the key, so the reader goes on, and only a comma lets it.
    show ((behind? ", " (", ".toList ++ _)).bind (readUpTo? grammar operand n)).map (key :: ·) = _
    rw [behind?_append, Option.bind_some, hnext]
    rfl

theorem length_lt_length_written (operand : String) (key : SortKey) (others : List SortKey) :
    others.length < (key.written operand others).length := by
  induction others generalizing key with
  | nil =>
    have hwords : 0 < key.words.length := by
      rcases key with direction | ⟨direction, _ | _ | _⟩ <;> cases direction <;> decide
    rw [written, String.length_append, List.length_nil]
    omega
  | cons next rest ih =>
    have hnext := ih next
    have hcomma : ", ".length = 2 := rfl
    rw [written, String.length_append, String.length_append, List.length_cons, hcomma]
    omega

/-- **An order is read back from what is written**, whatever the operand is, if the grammar has all
of its keys. -/
theorem read?_written (operand : String) {key : SortKey} {others : List SortKey}
    (hkeys : ∀ k ∈ key :: others, grammar.has k = true) :
    read? grammar operand (key.written operand others) = some (key :: others) :=
  readUpTo?_written operand hkeys (length_lt_length_written operand key others)

/-- Without words for where missing values go, a key that has them is not read. -/
example : read? .withoutPlacement "price" "price ASC NULLS LAST" = none := by decide

end SortKey

section Orders

variable {α : Type u} {ρ : Type v}

/-! ## Missing values at one end -/

/-- Rows with the missing values moved to one end. -/
def withMissingAt (missingFirst : Bool) (value : ρ → Option α) (rows : List ρ) : List ρ :=
  if missingFirst then
    rows.filter (fun r => (value r).isNone) ++ rows.filter (fun r => (value r).isSome)
  else
    rows.filter (fun r => (value r).isSome) ++ rows.filter (fun r => (value r).isNone)

/-- A list has the elements with a property in front if none of them stands behind another one. -/
theorem filter_append_filter_eq_self_iff (p : ρ → Bool) (rows : List ρ) :
    rows.filter p ++ rows.filter (fun r => !p r) = rows ↔
      rows.Pairwise fun r s => p s = true → p r = true := by
  constructor
  · intro h
    rw [← h, List.pairwise_append]
    refine ⟨?_, ?_, ?_⟩
    · exact List.pairwise_of_forall_mem_list fun r hr _ _ _ => (List.mem_filter.mp hr).2
    · refine List.pairwise_of_forall_mem_list fun r _ s hs hps => ?_
      simp [hps] at hs
    · intro r hr _ _ _
      exact (List.mem_filter.mp hr).2
  · intro h
    induction h with
    | nil => rfl
    | @cons r rest hr _ ih =>
      cases hpr : p r with
      | true => simpa [hpr] using ih
      | false =>
        -- `r` is without the property, so all behind it are.
        have hnone : ∀ s ∈ rest, p s = false := by
          intro s hs
          cases hps : p s with
          | false => rfl
          | true => exact (hpr.symm.trans (hr s hs hps)).symm
        have hfront : rest.filter p = [] :=
          List.filter_eq_nil_iff.mpr fun s hs hps => Bool.noConfusion ((hnone s hs).symm.trans hps)
        rw [hfront, List.nil_append] at ih
        simp [hpr, hfront, ih]

theorem withMissingAt_eq_self_iff (missingFirst : Bool) (value : ρ → Option α) (rows : List ρ) :
    withMissingAt missingFirst value rows = rows ↔
      rows.Pairwise fun r s =>
        if missingFirst then (value s).isNone = true → (value r).isNone = true
        else (value s).isSome = true → (value r).isSome = true := by
  cases missingFirst with
  | true =>
    have h := filter_append_filter_eq_self_iff (fun r => (value r).isNone) rows
    simpa [withMissingAt] using h
  | false =>
    have h := filter_append_filter_eq_self_iff (fun r => (value r).isSome) rows
    simpa [withMissingAt] using h

/-! ## Comparing values -/

/-- A comparison in a direction. -/
def Direction.apply : Direction → Ordering → Ordering
  | .ascending, o => o
  | .descending, o => o.swap

/-- How a missing value compares to `a`: as the key says, or else as the database ranks it. -/
def Placement.missingTo (rank : Direction → α → Ordering) (direction : Direction) (a : α) :
    Option Placement → Ordering
  | some .first => .lt
  | some .last => .gt
  | none => rank direction a

/-- Rows are sorted if none comes before one that it is greater than. -/
def Sorted (order : Option α → Option α → Ordering) (value : ρ → Option α) (rows : List ρ) : Prop :=
  rows.Pairwise fun r s => order (value r) (value s) ≠ .gt

variable [LinearOrder α]

/-- How a key compares two values of its operand. -/
def SortKey.compare (rank : Direction → α → Ordering) :
    SortKey → Option α → Option α → Ordering
  | .isMissing direction, x, y => direction.apply (Ord.compare x.isNone.toNat y.isNone.toNat)
  | .value _ _, none, none => .eq
  | .value direction placement, none, some b => Placement.missingTo rank direction b placement
  | .value direction placement, some a, none =>
    (Placement.missingTo rank direction a placement).swap
  | .value direction _, some a, some b => direction.apply (Ord.compare a b)

/-- How keys compare two values: by the first key in which they differ. -/
def SortKey.compareAll (rank : Direction → α → Ordering) :
    List SortKey → Option α → Option α → Ordering
  | [], _, _ => .eq
  | key :: rest, x, y => (key.compare rank x y).then (compareAll rank rest x y)

/-- The order of values that a text stands for. -/
def orderOf? (grammar : Grammar) (rank : Direction → α → Ordering) (operand sql : String) :
    Option (Option α → Option α → Ordering) :=
  (SortKey.read? grammar operand sql).map (SortKey.compareAll rank)

/-- The order of values that is ascending or not, with missing values at one end. -/
def valueOrder (ascending missingFirst : Bool) : Option α → Option α → Ordering
  | none, none => .eq
  | none, some _ => if missingFirst then .lt else .gt
  | some _, none => if missingFirst then .gt else .lt
  | some a, some b => if ascending then Ord.compare a b else Ord.compare b a

/-! ## Sorted rows -/

/-- When a row may come before another one. -/
theorem valueOrder_ne_gt_iff (ascending missingFirst : Bool) (x y : Option α) :
    valueOrder ascending missingFirst x y ≠ .gt ↔
      (if missingFirst then y.isNone = true → x.isNone = true
        else y.isSome = true → x.isSome = true) ∧
      ∀ a, x = some a → ∀ b, y = some b → if ascending then a ≤ b else b ≤ a := by
  rcases x with _ | a <;> rcases y with _ | b
  · simp [valueOrder]
  · cases missingFirst <;> simp [valueOrder]
  · cases missingFirst <;> simp [valueOrder]
  · cases ascending <;> simp [valueOrder, compare_le_iff_le]

/-- **What sorted rows look like.** The missing values are at their end, and what is not missing
ascends, or descends. -/
theorem sorted_valueOrder_iff (ascending missingFirst : Bool) (value : ρ → Option α)
    (rows : List ρ) :
    Sorted (valueOrder ascending missingFirst) value rows ↔
      withMissingAt missingFirst value rows = rows ∧
        (rows.filterMap value).Pairwise fun a b => if ascending then a ≤ b else b ≤ a := by
  rw [withMissingAt_eq_self_iff, List.pairwise_filterMap, ← List.pairwise_and_iff, Sorted]
  simp only [valueOrder_ne_gt_iff]

/-! ## Two ways to say where missing values go -/

/-- Keys that sort on whether the operand is missing first, and then on the operand. -/
def keysByMissing (ascending missingFirst : Bool) : List SortKey :=
  [.isMissing (if missingFirst then .descending else .ascending),
    .value (if ascending then .ascending else .descending) none]

/-- A key that says where missing values go. -/
def keysByPlacement (ascending missingFirst : Bool) : List SortKey :=
  [.value (if ascending then .ascending else .descending)
    (some (if missingFirst then .first else .last))]

variable (rank : Direction → α → Ordering) (ascending missingFirst : Bool)

/-- On two values that are there a key goes by its direction. -/
theorem compare_value_some (placement : Option Placement) (a b : α) :
    SortKey.compare rank (.value (if ascending then .ascending else .descending) placement)
        (some a) (some b) =
      if ascending then Ord.compare a b else Ord.compare b a := by
  cases ascending with
  | true => rfl
  | false => exact Std.OrientedOrd.eq_swap.symm

/-- On them the other kind of key is of no avail. -/
theorem compare_isMissing_some (direction : Direction) (a b : α) :
    SortKey.compare rank (.isMissing direction) (some a) (some b) = .eq := by
  cases direction <;> rfl

/-- Sorting on whether the operand is missing decides where missing values go, however they are
ranked in the second key. -/
theorem compareAll_keysByMissing :
    SortKey.compareAll rank (keysByMissing ascending missingFirst) =
      valueOrder ascending missingFirst := by
  funext x y
  -- Unless both values are there or both are missing, the first key differs and `rank` is not asked.
  rcases x with _ | a <;> rcases y with _ | b
  · cases missingFirst <;> rfl
  · cases missingFirst <;> rfl
  · cases missingFirst <;> rfl
  · rw [keysByMissing, SortKey.compareAll, SortKey.compareAll, compare_isMissing_some,
      compare_value_some, SortKey.compareAll, Ordering.then_eq]
    rfl

/-- A key that says where missing values go leaves nothing to the database. -/
theorem compareAll_keysByPlacement :
    SortKey.compareAll rank (keysByPlacement ascending missingFirst) =
      valueOrder ascending missingFirst := by
  funext x y
  rcases x with _ | a <;> rcases y with _ | b
  · rfl
  · cases missingFirst <;> rfl
  · cases missingFirst <;> rfl
  · rw [keysByPlacement, SortKey.compareAll, compare_value_some, SortKey.compareAll,
      Ordering.then_eq]
    rfl

end Orders

end SqlDialect.Database
