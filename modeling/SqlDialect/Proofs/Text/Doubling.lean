import SqlDialect.Proofs.Text.Replacement

/-!
# Doubled marks

Writing every occurrence of a mark twice can make new occurrences, across the two copies and what
stands beside them, if the mark overlaps itself. It cannot make one further to the left than the
first one: up to the end of a first occurrence the doubled text is the text. So the first occurrence
can be told from the doubled text, and behind its two copies the rest of the text is doubled alone.

Main statements: `take_doubled`, by which a doubled text starts as the text itself, for the length
of the mark; and `doubled_injective`, by which nothing is lost.
-/

namespace SqlDialect.Text

variable {mark s : List Char}

theorem doubled_nil (mark : List Char) : doubled mark [] = [] :=
  replaceAll_nil mark _

/-- A mark at the start is written twice, and what is behind it is doubled alone. -/
theorem doubled_append_self (hmark : mark ≠ []) (s : List Char) :
    doubled mark (mark ++ s) = mark ++ (mark ++ doubled mark s) := by
  rw [doubled, replaceAll_append_self hmark, List.append_assoc, doubled]

/-- A character at which no mark starts stays. -/
theorem doubled_cons {c : Char} (h : ¬ mark <+: c :: s) :
    doubled mark (c :: s) = c :: doubled mark s :=
  replaceAll_cons h _

/-- For the length of the mark, a doubled text is the text itself. -/
theorem take_doubled (hmark : mark ≠ []) (s : List Char) {k : Nat} (hk : k ≤ mark.length) :
    (doubled mark s).take k = s.take k := by
  induction s using reading_induction hmark generalizing k with
  | nil => rw [doubled_nil]
  | occurrence s =>
    rw [doubled_append_self hmark, List.take_append_of_le_length hk,
      List.take_append_of_le_length hk]
  | char c s hpre ih =>
    rw [doubled_cons hpre]
    cases k with
    | zero => rfl
    | succ k => rw [List.take_succ_cons, List.take_succ_cons, ih (Nat.le_of_succ_le hk)]

/-- Doubling brings no mark to the start, and takes none away from there. -/
theorem prefix_doubled_iff (hmark : mark ≠ []) (s : List Char) :
    mark <+: doubled mark s ↔ mark <+: s := by
  rw [List.prefix_iff_eq_take, List.prefix_iff_eq_take, take_doubled hmark s (Nat.le_refl _)]

/-- **Doubling loses nothing.** Two texts that are doubled to the same text are the same, whatever
the mark is, also if it is empty or overlaps itself. -/
theorem doubled_injective (mark : List Char) : Function.Injective (doubled mark) := by
  intro s t h
  by_cases hmark : mark = []
  · subst hmark
    exact h
  induction s using reading_induction hmark generalizing t with
  | nil =>
    have ht : ¬ mark <+: t := by
      rw [← prefix_doubled_iff hmark, ← h, prefix_doubled_iff hmark]
      exact fun hpre => hmark (List.prefix_nil.mp hpre)
    cases t with
    | nil => rfl
    | cons d t =>
      rw [doubled_nil, doubled_cons ht] at h
      cases h
  | occurrence s ih =>
    have ht : mark <+: t := by
      rw [← prefix_doubled_iff hmark, ← h, prefix_doubled_iff hmark]
      exact List.prefix_append mark s
    obtain ⟨t, rfl⟩ := ht
    rw [doubled_append_self hmark, doubled_append_self hmark, List.append_cancel_left_eq,
      List.append_cancel_left_eq] at h
    rw [ih h]
  | char c s hs ih =>
    have ht : ¬ mark <+: t := by
      rwa [← prefix_doubled_iff hmark, ← h, prefix_doubled_iff hmark]
    cases t with
    | nil =>
      rw [doubled_nil, doubled_cons hs] at h
      cases h
    | cons d t =>
      rw [doubled_cons hs, doubled_cons ht] at h
      obtain ⟨rfl, hrest⟩ := List.cons.inj h
      rw [ih hrest]

end SqlDialect.Text
