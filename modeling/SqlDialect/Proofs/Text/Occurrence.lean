import SqlDialect.Proofs.Text.Replacement

/-!
# Where a text occurs in another

A text cannot occur across a character that it does not hold. This is what makes a placeholder safe:
brackets, commas and blanks cut the text around it into parts, and each part can be searched alone.
Doubling percent signs puts nothing but percent signs in, so a text without percent signs occurs in
the doubled text exactly if it occurs in the text itself. A separator that does not occur behind
itself is the last one of its text, so the text can be cut there in one way only.

Main statements: `append_cons_eq_append_cons_iff`, all ways to cut a text at a separator, and
`eq_of_append_cons_eq`, the cut at the last one; `replaceAll_append_cons`, by which both sides of a
separator are replaced alone; and `segments_around`, by which a text with `old` in the middle, and
nowhere else, is cut into exactly what is before `old` and what is behind it.
-/

namespace SqlDialect.Text

variable {old l r s : List Char} {c : Char}

/-! ## Occurrences and separators -/

/-- What starts a text does not reach past a character that it does not hold. -/
theorem prefix_of_prefix_append_cons (hc : c ∉ old) (h : old <+: l ++ c :: r) : old <+: l := by
  induction l generalizing old with
  | nil =>
    cases old with
    | nil => exact List.prefix_rfl
    | cons a rest =>
      obtain ⟨rfl, -⟩ := List.cons_prefix_cons.mp h
      exact absurd List.mem_cons_self hc
  | cons b l ih =>
    cases old with
    | nil => exact List.nil_prefix
    | cons a rest =>
      obtain ⟨rfl, hrest⟩ := List.cons_prefix_cons.mp h
      exact List.cons_prefix_cons.mpr ⟨rfl, ih (fun hm => hc (List.mem_cons_of_mem _ hm)) hrest⟩

/-- An occurrence lies on one side of a character that it does not hold. -/
theorem infix_append_cons_iff (hc : c ∉ old) :
    old <:+: l ++ c :: r ↔ old <:+: l ∨ old <:+: r := by
  constructor
  · intro h
    induction l with
    | nil =>
      rcases List.infix_cons_iff.mp h with hp | hi
      · exact Or.inl (prefix_of_prefix_append_cons (l := []) hc hp).isInfix
      · exact Or.inr hi
    | cons b l ih =>
      rcases List.infix_cons_iff.mp h with hp | hi
      · exact Or.inl (prefix_of_prefix_append_cons (l := b :: l) hc hp).isInfix
      · rcases ih hi with hl | hr
        · exact Or.inl (List.infix_cons_iff.mpr (Or.inr hl))
        · exact Or.inr hr
  · rintro (hl | hr)
    · exact hl.trans (List.prefix_append l (c :: r)).isInfix
    · exact hr.trans (List.infix_append_of_infix_right (List.infix_cons List.infix_rfl))

theorem not_prefix_append_cons (hc : c ∉ old) (h : ¬ old <+: l) (r : List Char) :
    ¬ old <+: l ++ c :: r := fun hpre => h (prefix_of_prefix_append_cons hc hpre)

/-- The ways to cut a text at a separator. Two of them are the same, or the text between the two
separators, `more`, is behind the one and before the other. -/
theorem append_cons_eq_append_cons_iff {front front' back back' : List Char} :
    front ++ c :: back = front' ++ c :: back' ↔
      (front = front' ∧ back = back') ∨
        (∃ more, front' = front ++ c :: more ∧ back = more ++ c :: back') ∨
        ∃ more, front = front' ++ c :: more ∧ back' = more ++ c :: back := by
  constructor
  · intro h
    rcases List.append_eq_append_iff.mp h with ⟨more, rfl, hmore⟩ | ⟨more, rfl, hmore⟩
    · cases more with
      | nil => exact Or.inl ⟨by simp, by simpa using hmore⟩
      | cons a more =>
        obtain ⟨rfl, hrest⟩ := List.cons.inj hmore
        exact Or.inr (Or.inl ⟨more, rfl, hrest⟩)
    · cases more with
      | nil => exact Or.inl ⟨by simp, by simpa using hmore.symm⟩
      | cons a more =>
        obtain ⟨rfl, hrest⟩ := List.cons.inj hmore
        exact Or.inr (Or.inr ⟨more, rfl, hrest⟩)
  · rintro (⟨rfl, rfl⟩ | ⟨more, rfl, rfl⟩ | ⟨more, rfl, rfl⟩) <;> simp

/-- Two texts that are cut at their last separators are cut alike. -/
theorem eq_of_append_cons_eq {front front' back back' : List Char} (hback : c ∉ back)
    (hback' : c ∉ back') (h : front ++ c :: back = front' ++ c :: back') :
    front = front' ∧ back = back' := by
  -- A front that is longer than the other holds a separator of the other's back.
  rcases append_cons_eq_append_cons_iff.mp h with heq | ⟨more, -, rfl⟩ | ⟨more, -, rfl⟩
  · exact heq
  · exact absurd (by simp) hback
  · exact absurd (by simp) hback'

/-- Both sides of a separator are replaced alone. -/
theorem replaceAll_append_cons (ho : old ≠ []) (hc : c ∉ old) (new l r : List Char) :
    replaceAll old new (l ++ c :: r) = replaceAll old new l ++ c :: replaceAll old new r := by
  induction l using reading_induction ho with
  | nil =>
    have hpre := not_prefix_append_cons hc (fun h => ho (List.prefix_nil.mp h)) r
    rw [replaceAll_nil, List.nil_append, List.nil_append]
    exact replaceAll_cons hpre new
  | occurrence l ih =>
    rw [List.append_assoc, replaceAll_append_self ho, ih, replaceAll_append_self ho,
      List.append_assoc]
  | char b l hpre ih =>
    have hpre' := not_prefix_append_cons hc hpre r
    rw [List.cons_append] at hpre' ⊢
    rw [replaceAll_cons hpre', ih, replaceAll_cons hpre, List.cons_append]

/-- Nothing occurs across a separator. -/
theorem occurrences_append_cons (ho : old ≠ []) (hc : c ∉ old) (l r : List Char) :
    occurrences old (l ++ c :: r) = occurrences old l + occurrences old r := by
  induction l using reading_induction ho with
  | nil =>
    have hpre := not_prefix_append_cons hc (fun h => ho (List.prefix_nil.mp h)) r
    rw [occurrences_nil, Nat.zero_add]
    exact occurrences_cons hpre
  | occurrence l ih =>
    rw [List.append_assoc, occurrences_append_self ho, ih, occurrences_append_self ho]
    omega
  | char b l hpre ih =>
    have hpre' := not_prefix_append_cons hc hpre r
    rw [List.cons_append] at hpre' ⊢
    rw [occurrences_cons hpre', ih, occurrences_cons hpre]

/-! ## Doubled percent signs -/

theorem doublePercents_of_not_mem (h : '%' ∉ s) : doublePercents s = s := by
  induction s with
  | nil => rfl
  | cons b s ih =>
    have hb : b ≠ '%' := fun e => h (e ▸ List.mem_cons_self)
    rw [doublePercents, if_neg hb, ih fun hm => h (List.mem_cons_of_mem _ hm)]

theorem prefix_of_prefix_doublePercents (hp : '%' ∉ old) (h : old <+: doublePercents s) :
    old <+: s := by
  induction s generalizing old with
  | nil => exact h
  | cons b s ih =>
    cases old with
    | nil => exact List.nil_prefix
    | cons a rest =>
      by_cases hb : b = '%'
      · rw [doublePercents, if_pos hb] at h
        obtain ⟨rfl, -⟩ := List.cons_prefix_cons.mp h
        exact absurd List.mem_cons_self hp
      · rw [doublePercents, if_neg hb] at h
        obtain ⟨rfl, hrest⟩ := List.cons_prefix_cons.mp h
        exact List.cons_prefix_cons.mpr ⟨rfl, ih (fun hm => hp (List.mem_cons_of_mem _ hm)) hrest⟩

/-- A text without percent signs does not come up by doubling percent signs. -/
theorem infix_of_infix_doublePercents (hp : '%' ∉ old) (h : old <:+: doublePercents s) :
    old <:+: s := by
  induction s with
  | nil => exact h
  | cons b s ih =>
    by_cases hb : b = '%'
    · rw [doublePercents, if_pos hb] at h
      rcases (infix_append_cons_iff (l := ['%']) hp).mp h with hl | hr
      · exact hl.trans ⟨[], s, by rw [hb]; rfl⟩
      · exact List.infix_cons (ih hr)
    · have hd : doublePercents (b :: s) = b :: doublePercents s := by rw [doublePercents, if_neg hb]
      rw [hd] at h
      rcases List.infix_cons_iff.mp h with hpre | hi
      · rw [← hd] at hpre
        exact (prefix_of_prefix_doublePercents hp hpre).isInfix
      · exact List.infix_cons (ih hi)

/-- A text without percent signs occurs in the doubled text exactly if it occurs in the text. -/
theorem infix_doublePercents_iff (hp : '%' ∉ old) : old <:+: doublePercents s ↔ old <:+: s := by
  refine ⟨infix_of_infix_doublePercents hp, ?_⟩
  rintro ⟨l, r, rfl⟩
  rw [doublePercents_append, doublePercents_append, doublePercents_of_not_mem hp]
  exact List.infix_append _ old _

/-! ## Cutting at the only occurrence -/

/-- Where `old` does not occur there is one segment. -/
theorem segments_of_not_infix (h : ¬ old <:+: s) : segments old s = [s] := by
  induction s with
  | nil => exact segments_nil old
  | cons b s ih =>
    rw [segments_cons fun hpre => h hpre.isInfix, ih fun hi => h (List.infix_cons hi)]
    rfl

/-- Up to an occurrence behind a separator, a text without occurrences is the first segment. -/
theorem segments_append_cons (hc : c ∉ old) (hl : ¬ old <:+: l) (r : List Char) :
    segments old (l ++ c :: (old ++ r)) = (l ++ [c]) :: segments old r := by
  have ho : old ≠ [] := by
    rintro rfl
    exact hl List.nil_infix
  induction l with
  | nil =>
    have hpre := not_prefix_append_cons hc (fun h => ho (List.prefix_nil.mp h)) (old ++ r)
    rw [List.nil_append] at hpre ⊢
    rw [segments_cons hpre, segments_append_self ho]
    rfl
  | cons b l ih =>
    -- An occurrence that starts at `b` would end before the separator, so inside `b :: l`.
    have hpre := not_prefix_append_cons hc (fun h => hl h.isInfix) (old ++ r)
    rw [List.cons_append] at hpre ⊢
    rw [segments_cons hpre, ih fun hi => hl (List.infix_cons hi)]
    rfl

/-- Text to the left and to the right of `old` in which `old` does not occur, and a separator
directly before `old`. -/
structure Surrounds (old left right : List Char) : Prop where
  separated : ∃ front c, left = front ++ [c] ∧ c ∉ old ∧ ¬ old <:+: front
  right_free : ¬ old <:+: right

/-- **The only occurrence.** A text around `old` is cut into what is before `old` and what is behind
it. -/
theorem segments_around (h : Surrounds old l r) : segments old (l ++ old ++ r) = [l, r] := by
  obtain ⟨⟨front, c, rfl, hc, hfront⟩, hr⟩ := h
  rw [List.append_assoc, List.append_assoc, List.singleton_append,
    segments_append_cons hc hfront, segments_of_not_infix hr]

end SqlDialect.Text
