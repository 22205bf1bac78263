import SqlDialect.Text.Replace

/-!
# Reading a text for occurrences

A text that is read from the left is empty, or starts with an occurrence of the text that is looked
for, or starts with a character at which no occurrence starts. `reading_induction` is the induction
in these steps, and replacing and cutting have an equation for each of them. A text of one character
occurs where the character stands, so it is replaced one character at a time.

Main statements: `length_replaceAll`, by which each occurrence adds what the new text is longer;
`replaceAll_eq_self_iff`, by which replacing shows as soon as there is something to replace; and
`replaceAll_singleton` and `replaceAll_singleton_eq_iff`, the case of one character.
-/

namespace SqlDialect.Text

variable {old new new' s : List Char} {c : Char}

/-! ## One step -/

/-- A text is empty, or an occurrence and a text behind it, or a character at which none starts and
a text behind it. -/
@[elab_as_elim]
theorem reading_induction {motive : List Char → Prop} (ho : old ≠ []) (nil : motive [])
    (occurrence : ∀ s, motive s → motive (old ++ s))
    (char : ∀ c s, ¬ old <+: c :: s → motive s → motive (c :: s)) (s : List Char) : motive s := by
  induction hn : s.length using Nat.strongRecOn generalizing s with
  | _ n ih =>
    subst hn
    by_cases hpre : old <+: s
    · obtain ⟨rest, rfl⟩ := hpre
      have hpos := List.length_pos_iff.mpr ho
      exact occurrence rest (ih rest.length (by rw [List.length_append]; omega) rest rfl)
    · cases s with
      | nil => exact nil
      | cons c rest => exact char c rest hpre (ih rest.length (Nat.lt_succ_self _) rest rfl)

theorem ne_nil_of_not_prefix (h : ¬ old <+: s) : old ≠ [] := by
  rintro rfl
  exact h List.nil_prefix

theorem toList_replace (old new s : String) :
    (replace old new s).toList = replaceAll old.toList new.toList s.toList :=
  String.toList_ofList

theorem replaceAll_nil (old new : List Char) : replaceAll old new [] = [] := by
  rw [replaceAll, replaceFrom_nil, ite_self]

/-- An occurrence at the start is replaced. -/
theorem replaceAll_append_self (ho : old ≠ []) (new s : List Char) :
    replaceAll old new (old ++ s) = new ++ replaceAll old new s := by
  obtain ⟨a, rest, rfl⟩ := List.exists_cons_of_ne_nil ho
  have hpre : (a :: rest).isPrefixOf (a :: (rest ++ s)) = true :=
    List.isPrefixOf_iff_prefix.mpr (List.prefix_append (a :: rest) s)
  rw [replaceAll, if_neg ho, List.cons_append, replaceFrom, if_pos hpre, replaceFrom_eq_drop,
    List.length_cons, Nat.add_sub_cancel, List.drop_left, replaceAll, if_neg ho]

/-- A character at which no occurrence starts stays. -/
theorem replaceAll_cons (h : ¬ old <+: c :: s) (new : List Char) :
    replaceAll old new (c :: s) = c :: replaceAll old new s := by
  have ho := ne_nil_of_not_prefix h
  have hpre : ¬ old.isPrefixOf (c :: s) = true := fun hp => h (List.isPrefixOf_iff_prefix.mp hp)
  rw [replaceAll, if_neg ho, replaceFrom, if_neg hpre, replaceAll, if_neg ho]

/-! ## Segments -/

theorem segments_ne_nil (old s : List Char) : segments old s ≠ [] := by
  rw [segments]
  split
  · exact List.cons_ne_nil _ _
  · exact segmentsFrom_ne_nil old 0 s

theorem segmentsFrom_eq_drop (old : List Char) (skip : Nat) (s : List Char) :
    segmentsFrom old skip s = segmentsFrom old 0 (s.drop skip) := by
  induction skip generalizing s with
  | zero => rfl
  | succ skip ih =>
    cases s with
    | nil => rfl
    | cons b s => exact ih s

theorem segments_nil (old : List Char) : segments old [] = [[]] := by
  rw [segments, segmentsFrom, ite_self]

/-- At an occurrence the first segment is empty, and the others are those of the rest. -/
theorem segments_append_self (ho : old ≠ []) (s : List Char) :
    segments old (old ++ s) = [] :: segments old s := by
  obtain ⟨a, rest, rfl⟩ := List.exists_cons_of_ne_nil ho
  have hpre : (a :: rest).isPrefixOf (a :: (rest ++ s)) = true :=
    List.isPrefixOf_iff_prefix.mpr (List.prefix_append (a :: rest) s)
  rw [segments, if_neg ho, List.cons_append, segmentsFrom, if_pos hpre, segmentsFrom_eq_drop,
    List.length_cons, Nat.add_sub_cancel, List.drop_left, segments, if_neg ho]

/-- A character at which no occurrence starts belongs to the first segment. -/
theorem segments_cons (h : ¬ old <+: c :: s) :
    segments old (c :: s) = consSegment c (segments old s) := by
  have ho := ne_nil_of_not_prefix h
  have hpre : ¬ old.isPrefixOf (c :: s) = true := fun hp => h (List.isPrefixOf_iff_prefix.mp hp)
  rw [segments, if_neg ho, segmentsFrom, if_neg hpre, segments, if_neg ho]

/-! ## Counting -/

/-- How often `old` occurs in a text, from the left without overlap. -/
def occurrences (old s : List Char) : Nat :=
  (segments old s).length - 1

/-- There is one segment more than there are occurrences. -/
theorem length_segments (old s : List Char) :
    (segments old s).length = occurrences old s + 1 := by
  have := List.length_pos_iff.mpr (segments_ne_nil old s)
  rw [occurrences]
  omega

theorem occurrences_nil (old : List Char) : occurrences old [] = 0 := by
  rw [occurrences, segments_nil]
  rfl

theorem occurrences_append_self (ho : old ≠ []) (s : List Char) :
    occurrences old (old ++ s) = occurrences old s + 1 := by
  rw [occurrences, segments_append_self ho, List.length_cons, length_segments]
  rfl

theorem occurrences_cons (h : ¬ old <+: c :: s) :
    occurrences old (c :: s) = occurrences old s := by
  obtain ⟨part, parts, hparts⟩ := List.exists_cons_of_ne_nil (segments_ne_nil old s)
  rw [occurrences, segments_cons h, occurrences, hparts]
  rfl

/-- What is found occurs somewhere. -/
theorem occurrences_eq_zero_iff (ho : old ≠ []) (s : List Char) :
    occurrences old s = 0 ↔ ¬ old <:+: s := by
  induction s using reading_induction ho with
  | nil => simpa [occurrences_nil] using ho
  | occurrence s =>
    rw [occurrences_append_self ho]
    exact iff_of_false (Nat.succ_ne_zero _) (not_not_intro (List.prefix_append old s).isInfix)
  | char c s hpre ih => rw [occurrences_cons hpre, ih, List.infix_cons_iff, or_iff_right hpre]

/-- Each occurrence takes its length away and adds the length of what is written for it. -/
theorem length_replaceAll (ho : old ≠ []) (new s : List Char) :
    (replaceAll old new s).length + occurrences old s * old.length =
      s.length + occurrences old s * new.length := by
  induction s using reading_induction ho with
  | nil => rw [replaceAll_nil, occurrences_nil, Nat.zero_mul, Nat.zero_mul]
  | occurrence s ih =>
    rw [replaceAll_append_self ho, occurrences_append_self ho, List.length_append,
      List.length_append, Nat.succ_mul, Nat.succ_mul]
    omega
  | char c s hpre ih =>
    rw [replaceAll_cons hpre, occurrences_cons hpre, List.length_cons, List.length_cons]
    omega

/-- Nothing is replaced where nothing occurs. -/
theorem replaceAll_of_not_infix (h : ¬ old <:+: s) (new : List Char) :
    replaceAll old new s = s := by
  induction s with
  | nil => exact replaceAll_nil old new
  | cons c s ih =>
    rw [replaceAll_cons (fun hpre => h hpre.isInfix), ih fun hi => h (List.infix_cons hi)]

theorem replaceAll_self (ho : old ≠ []) (s : List Char) : replaceAll old old s = s := by
  induction s using reading_induction ho with
  | nil => exact replaceAll_nil old old
  | occurrence s ih => rw [replaceAll_append_self ho, ih]
  | char c s hpre ih => rw [replaceAll_cons hpre, ih]

/-- **Replacing shows**, unless there is nothing to replace or each occurrence is written back. -/
theorem replaceAll_eq_self_iff (ho : old ≠ []) :
    replaceAll old new s = s ↔ ¬ old <:+: s ∨ new = old := by
  constructor
  · intro h
    refine Classical.or_iff_not_imp_left.mpr fun hfound => ?_
    have hcount : occurrences old s ≠ 0 := fun h0 => hfound ((occurrences_eq_zero_iff ho s).mp h0)
    have hlength : new.length = old.length := by
      have := length_replaceAll ho new s
      rw [h] at this
      exact (Nat.eq_of_mul_eq_mul_left (Nat.pos_of_ne_zero hcount) (Nat.add_left_cancel this)).symm
    induction s using reading_induction ho with
    | nil => exact absurd (occurrences_nil old) hcount
    | occurrence s =>
      rw [replaceAll_append_self ho] at h
      exact List.append_inj_left h hlength
    | char c s hpre ih =>
      rw [replaceAll_cons hpre] at h
      rw [occurrences_cons hpre] at hcount
      exact ih (List.cons.inj h).2 (fun hfree => hcount ((occurrences_eq_zero_iff ho s).mpr hfree))
        hcount
  · rintro (hfree | rfl)
    · exact replaceAll_of_not_infix hfree new
    · exact replaceAll_self ho s

/-! ## One character -/

/-- A single character is replaced one character at a time. -/
theorem replaceAll_singleton (mark : Char) (new s : List Char) :
    replaceAll [mark] new s = s.flatMap fun c => if c = mark then new else [c] := by
  show replaceFrom [mark] new 0 s = _
  induction s with
  | nil => rfl
  | cons c s ih =>
    rw [replaceFrom, List.flatMap_cons]
    by_cases hc : c = mark
    · subst hc
      simp [ih]
    · have hmark : ¬ mark = c := fun e => hc e.symm
      simp [hc, hmark, ih]

/-- A mark of one character is doubled one character at a time. -/
theorem doubled_singleton (mark : Char) (s : List Char) :
    doubled [mark] s = s.flatMap fun c => if c = mark then [mark, mark] else [c] :=
  replaceAll_singleton mark [mark, mark] s

/-- Two different texts of one length, written for the same character, make the same text exactly if
the character does not stand there: from its first place on the two disagree. -/
theorem replaceAll_singleton_eq_iff (mark : Char) (hlength : new.length = new'.length)
    (hne : new ≠ new') : replaceAll [mark] new s = replaceAll [mark] new' s ↔ mark ∉ s := by
  rw [replaceAll_singleton, replaceAll_singleton]
  induction s with
  | nil => simp
  | cons c s ih =>
    rw [List.flatMap_cons, List.flatMap_cons]
    by_cases hc : c = mark
    · subst hc
      rw [if_pos rfl, if_pos rfl]
      exact iff_of_false (fun h => hne (List.append_inj_left h hlength))
        (not_not_intro List.mem_cons_self)
    · have hmark : ¬ mark = c := fun e => hc e.symm
      rw [if_neg hc, if_neg hc, List.append_cancel_left_eq, ih, List.mem_cons, not_or,
        and_iff_right hmark]

end SqlDialect.Text
