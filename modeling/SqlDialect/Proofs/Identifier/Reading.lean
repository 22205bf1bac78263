import SqlDialect.Proofs.Text.Doubling
import SqlDialect.Query.Basic

/-!
# Reading quoted names

A quoted name is read from its opening quote on: two quotes are one quote of the name, and the first
quote that stands alone ends it. `read?` is that reader. It gives the name back together with what
stands behind it, so nothing in a name can end the quotes early or keep them from ending, and only a
quote directly behind the closing one could be taken for a part of the name.

A longer text can be the quote, too. Where it overlaps itself a name cannot be read in this way, but
quoting still keeps different names apart.

Main statements: `quoted_name_ends_itself` and `quoteIdentifier_inj`.
-/

namespace SqlDialect

namespace Identifier

open Text (doubled doubled_singleton)

/-! ## The reader -/

/-- The characters up to the first quote that no quote follows, and what stands behind that quote.
Two quotes are one of the characters. -/
def readQuoted (quote : Char) : List Char → Option (List Char × List Char)
  | [] => none
  | [c] => if c = quote then some ([], []) else none
  | c :: d :: rest =>
    if c ≠ quote then (readQuoted quote (d :: rest)).map (Prod.map (c :: ·) id)
    else if d = quote then (readQuoted quote rest).map (Prod.map (quote :: ·) id)
    else some ([], d :: rest)

/-- Reads a quoted name, and gives it with what stands behind it. -/
def read? (quote : Char) (s : String) : Option (String × String) :=
  match s.toList with
  | [] => none
  | c :: rest =>
    if c = quote then (readQuoted quote rest).map (Prod.map String.ofList String.ofList) else none

variable {quote c : Char}

theorem readQuoted_cons_of_ne (hc : c ≠ quote) (rest : List Char) :
    readQuoted quote (c :: rest) = (readQuoted quote rest).map (Prod.map (c :: ·) id) := by
  cases rest with
  | nil => simp [readQuoted, hc]
  | cons d rest => rw [readQuoted, if_pos hc]

/-- Two quotes are one quote of the name. -/
theorem readQuoted_two (quote : Char) (rest : List Char) :
    readQuoted quote (quote :: quote :: rest) =
      (readQuoted quote rest).map (Prod.map (quote :: ·) id) := by
  rw [readQuoted, if_neg (not_not_intro rfl), if_pos rfl]

/-- A quote that stands alone ends the name. -/
theorem readQuoted_alone {rest : List Char} (h : rest.head? ≠ some quote) :
    readQuoted quote (quote :: rest) = some ([], rest) := by
  cases rest with
  | nil => rw [readQuoted, if_pos rfl]
  | cons d rest =>
    have hd : ¬ d = quote := fun e => h (congrArg some e)
    rw [readQuoted, if_neg (not_not_intro rfl), if_neg hd]

/-- Doubled characters are read back, whatever stands behind them. -/
theorem readQuoted_doubled_append (quote : Char) (name rest : List Char) :
    readQuoted quote (doubled [quote] name ++ rest) =
      (readQuoted quote rest).map (Prod.map (name ++ ·) id) := by
  rw [doubled_singleton]
  induction name with
  | nil => exact Option.map_id'.symm
  | cons c name ih =>
    rw [List.flatMap_cons, List.append_assoc]
    by_cases hc : c = quote
    · subst hc
      rw [if_pos rfl, List.cons_append, List.singleton_append, readQuoted_two, ih, Option.map_map]
      rfl
    · rw [if_neg hc, List.singleton_append, readQuoted_cons_of_ne hc, ih, Option.map_map]
      rfl

/-! ## Quoted names -/

/-- What is read from a quoted name on begins with the name; the closing quote is where it is
decided how it goes on. -/
theorem read?_quoteIdentifier (quote : Char) (name rest : String) :
    read? quote (quoteIdentifier name (String.ofList [quote]) ++ rest) =
      (readQuoted quote (quote :: rest.toList)).map
        (Prod.map (fun front => name ++ String.ofList front) String.ofList) := by
  have hchars : (quoteIdentifier name (String.ofList [quote]) ++ rest).toList =
      quote :: (doubled [quote] name.toList ++ quote :: rest.toList) := by
    simp [quoteIdentifier]
  rw [read?, hchars]
  show (if quote = quote then _ else none) = _
  rw [if_pos rfl, readQuoted_doubled_append, Option.map_map]
  congr 1
  funext read
  simp [Prod.map, String.ofList_append]

/-- A quoted name is read back exactly if no further quote stands directly behind it. -/
theorem read?_quoteIdentifier_iff (quote : Char) (name rest : String) :
    read? quote (quoteIdentifier name (String.ofList [quote]) ++ rest) = some (name, rest) ↔
      rest.toList.head? ≠ some quote := by
  rw [read?_quoteIdentifier]
  by_cases h : rest.toList.head? = some quote
  · refine iff_of_false ?_ (not_not_intro h)
    obtain ⟨more, hmore⟩ := List.head?_eq_some_iff.mp h
    rw [hmore, readQuoted_two, Option.map_map]
    intro hread
    obtain ⟨⟨front, back⟩, -, hpair⟩ := Option.map_eq_some_iff.mp hread
    -- The name that is read has the quote behind it.
    have hname : name ++ String.ofList (quote :: front) = name := (Prod.mk.inj hpair).1
    have := congrArg String.length hname
    simp at this
  · refine iff_of_true ?_ h
    rw [readQuoted_alone h]
    simp

/-- **A quoted name ends itself.** With one character as the quote, and with the backticks of either
engine, reading from a quoted name on gives the name and what stands behind it, exactly if that does
not begin with the quote. -/
theorem quoted_name_ends_itself (quote : Char) (name rest : String) :
    (read? quote (quoteIdentifier name (String.ofList [quote]) ++ rest) = some (name, rest) ↔
        rest.toList.head? ≠ some quote) ∧
      ∀ {zones : Zone.Lookup} (q : Query zones),
        ∃ quoted, q.escapeColumnName (.text name) = .ok quoted ∧
          (read? backtick (quoted ++ rest) = some (name, rest) ↔
            rest.toList.head? ≠ some backtick) := by
  refine ⟨read?_quoteIdentifier_iff quote name rest, fun q => ?_⟩
  refine ⟨quoteIdentifier name (String.ofList [backtick]), ?_,
    read?_quoteIdentifier_iff backtick name rest⟩
  rw [q.escapeColumnName_rule, quoteValue_text]

/-- A name of two backticks. -/
example : read? backtick "\x60\x60\x60\x60\x60\x60.t" = some ("\x60\x60", ".t") := by decide

/-- **Quoting keeps names apart.** Two names that are quoted to the same text are the same, whatever
the quote is, also if it is empty or overlaps itself. -/
theorem quoteIdentifier_inj (name name' quote : String) :
    quoteIdentifier name quote = quoteIdentifier name' quote ↔ name = name' := by
  refine ⟨fun h => ?_, fun h => h ▸ rfl⟩
  rw [quoteIdentifier, quoteIdentifier, ← String.toList_inj] at h
  simp only [String.toList_append, String.toList_ofList, List.append_cancel_right_eq,
    List.append_cancel_left_eq] at h
  exact String.toList_inj.mp (Text.doubled_injective quote.toList h)

end Identifier

end SqlDialect
