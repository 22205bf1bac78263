import SqlDialect.Proofs.Keyed.Agreement
import SqlDialect.Proofs.Template.Order

/-!
# What changes can make of a catalogue

A catalogue can be changed into another one exactly if the other one has all categories of it.
Changes never take a category away, so this is needed. It is also enough, and `derivation` is a list
of changes that does it: a template without a name is written into each category that is wanted,
which makes the categories, and removed again; everything that was there is removed; and everything
that is wanted is written. The parts of the list do not get into each other's way, because within one
part all changes of a template leave the same of it.

Main statements: `same_iff`, when two catalogues are equal without regard to order;
`source?_withChanges_of_forall`, what is left by changes that all leave the same; and
`derivable_iff`.
-/

namespace SqlDialect.Template.Catalog

variable {s t : Catalog} {category name : String}

/-! ## Equal catalogues -/

/-- The two levels of the comparison. -/
theorem same_iff_entries :
    s.same t = true ↔
      s.categories.entries.length = t.categories.entries.length ∧
        ∀ entry ∈ s.categories.entries, ∃ m, t.categories.get? entry.1 = some m ∧
          ∀ name, entry.2.get? name = m.get? name := by
  rw [same, Bool.and_eq_true, List.all_eq_true]
  simp only [toList, List.length_map, beq_iff_eq, List.mem_map, forall_exists_index, and_imp,
    forall_apply_eq_imp_iff₂]
  refine and_congr_right fun _ => forall₂_congr fun entry _ => ?_
  rw [category?]
  cases t.categories.get? entry.1 with
  | none => simp
  | some m =>
    simp only [Option.some.injEq, exists_eq_left', Bool.and_eq_true, beq_iff_eq,
      List.all_eq_true]
    exact Keyed.get?_eq_iff

/-- Two catalogues are equal, order aside, if they have the same categories and the same templates
in them. -/
theorem same_iff :
    s.same t = true ↔
      (∀ category, (s.category? category).isSome = (t.category? category).isSome) ∧
        ∀ category name, s.source? category name = t.source? category name := by
  have hagree := Keyed.agree_iff (m := s.categories) (n := t.categories)
    (R := fun m m' => ∀ name, m.get? name = m'.get? name)
  rw [same_iff_entries, hagree, ← forall_and]
  refine forall_congr' fun category => ?_
  simp only [Keyed.mem_keys_iff, source?, category?]
  cases s.categories.get? category <;> cases t.categories.get? category <;> simp

/-! ## Changes that leave the same -/

theorem withChanges_append (s : Catalog) (front back : List Change) :
    s.withChanges (front ++ back) = (s.withChanges front).withChanges back := by
  rw [withChanges, List.foldl_append]
  rfl

/-- Where all changes of a template leave the same of it, that is what is left, if there is one. -/
theorem source?_withChanges_of_forall (s : Catalog) {changes : List Change} (left : Option String)
    (h : ∀ change ∈ changes, change.touches category name = true → change.source? = left) :
    (s.withChanges changes).source? category name =
      if changes.any (Change.touches category name) then left else s.source? category name := by
  rw [source?_withChanges, sourceAfter]
  cases hlast : Change.last? category name changes with
  | none =>
    have hnone := (Change.last?_eq_none_iff category name changes).mp hlast
    have hany : changes.any (Change.touches category name) = false := by
      rw [List.any_eq_false]
      intro change hmem
      rw [hnone change hmem]
      exact Bool.false_ne_true
    rw [hany]
    rfl
  | some change =>
    have htouches : change.touches category name = true := List.find?_some hlast
    have hmem : change ∈ changes := List.mem_reverse.mp (List.mem_of_find?_eq_some hlast)
    have hany : changes.any (Change.touches category name) = true :=
      List.any_eq_true.mpr ⟨change, hmem, htouches⟩
    rw [hany]
    exact h change hmem htouches

/-! ## The parts of a derivation -/

/-- Writes a template without a name into each category. -/
def openings (t : Catalog) : List Change :=
  t.categoryNames.map fun category => .override category "" ""

/-- Removes the template without a name from each category. -/
def closings (t : Catalog) : List Change :=
  t.categoryNames.map fun category => .remove category ""

/-- Removes every template. -/
def removals (s : Catalog) : List Change :=
  s.templates.map fun template => .remove template.1 template.2.1

/-- Writes every template. -/
def writings (t : Catalog) : List Change :=
  t.templates.map fun template => .override template.1 template.2.1 template.2.2

/-- Changes that make one catalogue of another. -/
def derivation (s t : Catalog) : List Change :=
  t.openings ++ (t.closings ++ (s.removals ++ t.writings))

/-! ## What the parts leave -/

variable (s t) (category name)

theorem source?_openings :
    (s.withChanges t.openings).source? category name =
      if category ∈ t.categoryNames ∧ name = "" then some "" else s.source? category name := by
  rw [source?_withChanges_of_forall s (some "")]
  · simp [openings, Change.touches]
  · simp [openings, Change.source?]

theorem source?_closings :
    (s.withChanges t.closings).source? category name =
      if category ∈ t.categoryNames ∧ name = "" then none else s.source? category name := by
  rw [source?_withChanges_of_forall s none]
  · simp [closings, Change.touches]
  · simp [closings, Change.source?]

/-- Changes of all templates of a catalogue are of a template exactly if it is there. -/
theorem any_touches_templates {f : String × String × String → Change}
    (hf : ∀ template, (f template).touches category name =
      (category = template.1 && name = template.2.1 : Bool)) :
    (t.templates.map f).any (Change.touches category name) =
      (t.source? category name).isSome := by
  rw [Bool.eq_iff_iff, List.any_eq_true, Option.isSome_iff_exists]
  simp [hf, mem_templates_iff]

theorem source?_removals :
    (s.withChanges t.removals).source? category name =
      if (t.source? category name).isSome then none else s.source? category name := by
  have hany : t.removals.any (Change.touches category name) =
      (t.source? category name).isSome :=
    any_touches_templates t category name fun _ => rfl
  rw [source?_withChanges_of_forall s none, hany]
  intro change hmem _
  obtain ⟨template, -, rfl⟩ := List.mem_map.mp hmem
  rfl

theorem source?_writings :
    (s.withChanges t.writings).source? category name =
      if (t.source? category name).isSome then t.source? category name
      else s.source? category name := by
  have hany : t.writings.any (Change.touches category name) =
      (t.source? category name).isSome :=
    any_touches_templates t category name fun _ => rfl
  rw [source?_withChanges_of_forall s (t.source? category name), hany]
  intro change hmem htouches
  obtain ⟨⟨c, n, source⟩, hsource, rfl⟩ := List.mem_map.mp hmem
  obtain ⟨rfl, rfl⟩ : category = c ∧ name = n := by simpa [Change.touches] using htouches
  exact (mem_templates_iff.mp hsource).symm

/-- **A derivation leaves the templates that are wanted**, and no others. -/
theorem source?_derivation :
    (s.withChanges (derivation s t)).source? category name = t.source? category name := by
  rw [derivation, withChanges_append, withChanges_append, withChanges_append, source?_writings,
    source?_removals, source?_closings, source?_openings]
  by_cases hblank : category ∈ t.categoryNames ∧ name = ""
  · rw [if_pos hblank]
    cases t.source? category name <;> simp
  · rw [if_neg hblank, if_neg hblank]
    cases t.source? category name <;> cases s.source? category name <;> rfl

/-- A derivation adds the categories that are wanted. -/
theorem isSome_category?_derivation :
    ((s.withChanges (derivation s t)).category? category).isSome =
      ((s.category? category).isSome || (t.category? category).isSome) := by
  rw [isSome_category?_withChanges, hasAfter]
  congr 1
  rw [Bool.eq_iff_iff, Change.any_writesInto_iff]
  constructor
  · rintro ⟨n, source, hmem⟩
    simp only [derivation, openings, closings, removals, writings, List.mem_append,
      List.mem_map] at hmem
    rcases hmem with ⟨c, hc, heq⟩ | ⟨c, -, heq⟩ | ⟨c, -, heq⟩ | ⟨⟨c, n', v⟩, hv, heq⟩ <;>
      cases heq
    · exact (mem_categoryNames_iff t category).mp hc
    · exact isSome_category?_of_source? (mem_templates_iff.mp hv)
  · intro hthere
    refine ⟨"", "", List.mem_append_left _ (List.mem_map.mpr ⟨category, ?_, rfl⟩)⟩
    exact (mem_categoryNames_iff t category).mpr hthere

/-- **What a catalogue can be changed into.** There are changes that make one catalogue of another
exactly if the other one has all its categories. In particular any category, whether it is there or
not, can be left without templates while all others stay as they are, and no changes take a category
away. -/
theorem derivable_iff (s t : Catalog) :
    ((∃ changes, (s.withChanges changes).same t = true) ↔
      ∀ category, (s.category? category).isSome = true → (t.category? category).isSome = true) ∧
    (∀ category, ∃ changes,
      (s.withChanges changes).same ⟨s.categories.insert category Keyed.empty⟩ = true) ∧
    ∀ changes category, (s.category? category).isSome = true →
      ((s.withChanges changes).category? category).isSome = true := by
  have hkept (changes : List Change) (category : String)
      (h : (s.category? category).isSome = true) :
      ((s.withChanges changes).category? category).isSome = true := by
    rw [isSome_category?_withChanges, hasAfter, h, Bool.true_or]
  have hreached (t : Catalog) (h : ∀ category, (s.category? category).isSome = true →
      (t.category? category).isSome = true) :
      (s.withChanges (derivation s t)).same t = true := by
    rw [same_iff]
    refine ⟨fun category => ?_, source?_derivation s t⟩
    rw [isSome_category?_derivation]
    cases hs : (s.category? category).isSome with
    | false => rfl
    | true => rw [h category hs, Bool.or_true]
  refine ⟨⟨?_, fun h => ⟨_, hreached t h⟩⟩, ?_, hkept⟩
  · rintro ⟨changes, hsame⟩ category hs
    rw [← (same_iff.mp hsame).1 category]
    exact hkept changes category hs
  · intro category
    refine ⟨_, hreached _ fun other hs => ?_⟩
    rw [category?, Keyed.get?_insert]
    split
    · rfl
    · exact hs

end SqlDialect.Template.Catalog
