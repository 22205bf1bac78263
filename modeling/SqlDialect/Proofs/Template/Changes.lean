import SqlDialect.Proofs.Template.Missing

/-!
# Catalogues after changes

A list of changes acts on a catalogue one change after another, on categories and on the templates
in them. What is there afterwards can be read off the list itself. A template is what the last
change of it says, whatever the changes of other templates in between; a category is there if it was
there before or if any change writes a template into it, even if the template is removed later.

Each step is described by `source?_withChanges_singleton` and `category?_withChanges_singleton`, and
the run by induction on the list.

Main statements: `source?_withChanges` and `isSome_category?_withChanges`, what is there after
changes; `lookup_withChanges_of_untouched`, by which a look-up is the same if no change is about the
template; and `withChanges_spec`, which of the two keys is missing after changes.
-/

namespace SqlDialect.Template

namespace Change

/-- Whether a change is one of a given template. -/
def touches (category name : String) : Change → Bool
  | .override c n _ => category = c && name = n
  | .remove c n => category = c && name = n

/-- The source that a change leaves for its template, if it leaves one. -/
def source? : Change → Option String
  | .override _ _ source => some source
  | .remove _ _ => none

/-- Whether a change writes into a category. -/
def writesInto (category : String) : Change → Bool
  | .override c _ _ => category = c
  | .remove _ _ => false

/-- The last change of a template in a list of changes. -/
def last? (category name : String) (changes : List Change) : Option Change :=
  changes.reverse.find? (touches category name)

theorem last?_cons (category name : String) (change : Change) (rest : List Change) :
    last? category name (change :: rest) =
      (last? category name rest).or (if change.touches category name then some change else none) := by
  rw [last?, List.reverse_cons, List.find?_append, last?]
  cases h : change.touches category name <;> simp [h]

theorem last?_eq_none_iff (category name : String) (changes : List Change) :
    last? category name changes = none ↔
      ∀ change ∈ changes, change.touches category name = false := by
  rw [last?, List.find?_eq_none]
  constructor
  · intro h change hmem
    exact Bool.eq_false_iff.mpr (h change (List.mem_reverse.mpr hmem))
  · intro h change hmem
    rw [h change (List.mem_reverse.mp hmem)]
    exact Bool.false_ne_true

theorem any_writesInto_iff (category : String) (changes : List Change) :
    changes.any (writesInto category) = true ↔
      ∃ name source, override category name source ∈ changes := by
  rw [List.any_eq_true]
  constructor
  · rintro ⟨change, hmem, hwrites⟩
    cases change with
    | override c n source =>
      obtain rfl : category = c := by simpa [writesInto] using hwrites
      exact ⟨n, source, hmem⟩
    | remove c n => cases hwrites
  · rintro ⟨name, source, hmem⟩
    exact ⟨_, hmem, by simp [writesInto]⟩

end Change

namespace Catalog

/-- What the changes say about a template, or else the catalogue. -/
def sourceAfter (s : Catalog) (changes : List Change) (category name : String) : Option String :=
  match Change.last? category name changes with
  | some change => change.source?
  | none => s.source? category name

/-- Whether the catalogue has a category or some change writes into it. -/
def hasAfter (s : Catalog) (changes : List Change) (category : String) : Bool :=
  (s.category? category).isSome || changes.any (Change.writesInto category)

/-! ## One change -/

theorem withChanges_cons (s : Catalog) (change : Change) (rest : List Change) :
    s.withChanges (change :: rest) = (s.withChanges [change]).withChanges rest := rfl

theorem category?_override (s : Catalog) (category name source other : String) :
    (s.withChanges [.override category name source]).category? other =
      if other = category then
        some (((s.category? category).getD Keyed.empty).insert name source)
      else s.category? other :=
  Keyed.get?_insert _ _ _ _

theorem category?_remove (s : Catalog) (category name other : String) :
    (s.withChanges [.remove category name]).category? other =
      if other = category then (s.category? category).map (Keyed.erase · name)
      else s.category? other := by
  show (Change.apply (.remove category name) s.categories).get? other = _
  rw [Change.apply]
  cases h : s.categories.get? category with
  | none =>
    by_cases ho : other = category
    · subst ho
      rw [if_pos rfl, category?, h]
      rfl
    · rw [if_neg ho]
      rfl
  | some templates =>
    rw [Keyed.get?_insert, category?, h]
    rfl

/-- **A step for templates.** A change acts on its own template and on no other. -/
theorem source?_withChanges_singleton (s : Catalog) (change : Change) (category name : String) :
    (s.withChanges [change]).source? category name =
      if change.touches category name then change.source? else s.source? category name := by
  cases change with
  | override c n source =>
    rw [source?, category?_override]
    by_cases hc : category = c
    · subst hc
      by_cases hn : name = n
      · subst hn
        simp [Change.touches, Change.source?]
      · simp only [if_true, Keyed.get?_insert, if_neg hn, Change.touches, decide_true,
          Bool.true_and, decide_eq_true_eq, source?]
        cases s.category? category <;> rfl
    · simp [Change.touches, hc, source?]
  | remove c n =>
    rw [source?, category?_remove]
    by_cases hc : category = c
    · subst hc
      by_cases hn : name = n
      · subst hn
        cases s.category? category <;> simp [Change.touches, Change.source?]
      · cases h : s.category? category <;> simp [Change.touches, hn, source?, h]
    · simp [Change.touches, hc, source?]

/-- **A step for categories.** Only writing makes a category, and nothing drops one. -/
theorem category?_withChanges_singleton (s : Catalog) (change : Change) (category : String) :
    ((s.withChanges [change]).category? category).isSome =
      ((s.category? category).isSome || change.writesInto category) := by
  cases change with
  | override c n source =>
    rw [category?_override]
    by_cases hc : category = c <;> simp [Change.writesInto, hc]
  | remove c n =>
    rw [category?_remove]
    by_cases hc : category = c <;> simp [Change.writesInto, hc]

/-! ## Lists of changes -/

/-- **The last change wins.** -/
theorem source?_withChanges (s : Catalog) (changes : List Change) (category name : String) :
    (s.withChanges changes).source? category name = s.sourceAfter changes category name := by
  induction changes generalizing s with
  | nil => rfl
  | cons change rest ih =>
    rw [withChanges_cons, ih, sourceAfter, sourceAfter, Change.last?_cons]
    cases Change.last? category name rest with
    | some last => rfl
    | none =>
      show (s.withChanges [change]).source? category name = _
      rw [source?_withChanges_singleton]
      cases change.touches category name <;> rfl

/-- A template that is there after changes was there before or is written by one of them. -/
theorem source?_of_withChanges {s : Catalog} {changes : List Change}
    {category name source : String}
    (h : (s.withChanges changes).source? category name = some source) :
    s.source? category name = some source ∨ Change.override category name source ∈ changes := by
  rw [source?_withChanges, sourceAfter] at h
  cases hlast : Change.last? category name changes with
  | none =>
    rw [hlast] at h
    exact Or.inl h
  | some change =>
    rw [hlast] at h
    have hmem : change ∈ changes := List.mem_reverse.mp (List.mem_of_find?_eq_some hlast)
    have htouches : change.touches category name = true := List.find?_some hlast
    cases change with
    | override c n written =>
      cases h
      obtain ⟨rfl, rfl⟩ : category = c ∧ name = n := by simpa [Change.touches] using htouches
      exact Or.inr hmem
    | remove c n => cases h

/-- **Categories are never dropped.** -/
theorem isSome_category?_withChanges (s : Catalog) (changes : List Change) (category : String) :
    ((s.withChanges changes).category? category).isSome = s.hasAfter changes category := by
  induction changes generalizing s with
  | nil =>
    rw [hasAfter, List.any_nil, Bool.or_false]
    rfl
  | cons change rest ih =>
    rw [withChanges_cons, ih, hasAfter, category?_withChanges_singleton, hasAfter, List.any_cons,
      Bool.or_assoc]

/-! ## Look-ups after changes -/

/-- Changes of other templates, in categories that are there, do not show in a look-up. -/
theorem lookup_withChanges_of_untouched (s : Catalog) {changes : List Change} {category name : Value}
    (hthere : ∀ c, changes.any (Change.writesInto c) = true → (s.category? c).isSome = true)
    (huntouched : ∀ c n, category = .text c → name = .text n →
      ∀ change ∈ changes, change.touches c n = false) :
    (s.withChanges changes).lookup category name = s.lookup category name := by
  refine lookup_congr ?_ ?_
  · intro c _
    rw [isSome_category?_withChanges, hasAfter]
    cases hany : changes.any (Change.writesInto c) with
    | false => rw [Bool.or_false]
    | true => rw [hthere c hany, Bool.or_true]
  · intro c n hc hn
    have hlast := (Change.last?_eq_none_iff c n changes).mpr (huntouched c n hc hn)
    rw [source?_withChanges, sourceAfter, hlast]

/-- A template whose last change is a removal is missing, whatever it would be filled in with. -/
theorem render_withChanges_of_removed (s : Catalog) {changes : List Change}
    {category name c n : String}
    (hthere : s.hasAfter changes category = true)
    (hlast : Change.last? category name changes = some (.remove c n)) (params : Parameters) :
    ((s.withChanges changes).render (.text category) (.text name) params).result =
      .error (.missingKey (.text name)) := by
  rw [render_missingKey_iff, lookup_missingKey_iff]
  refine Or.inr ⟨rfl, ?_, ?_⟩
  · rw [isSome_category?_withChanges, hthere]
  · rw [source?_withChanges, sourceAfter, hlast]
    rfl

end Catalog

end SqlDialect.Template
