import SqlDialect.Proofs.Keyed.Arrival
import SqlDialect.Proofs.Template.Changes

/-!
# The order of a catalogue after changes

A list of changes acts on the names of the categories and on the names in each category as a sequence
of steps on keys, so the order of both is that of keys after steps. Nothing erases a category;
therefore a new one has come in only once, with the first change that writes into it. A template may
be removed and written again, any number of times and between changes of others, and only the latest
time counts.

`Change.onCategories` and `Change.onNames` are the steps of a change, and each list of names is
followed through one change and then through all of them.

Main statement: `order_withChanges`.
-/

namespace SqlDialect.Template

open Keyed (Step keysAfter Arrives InOrderOf)

namespace Change

/-- What a change does to the names of the categories. -/
def onCategories : Change → Step
  | .override category _ _ => .write category
  | .remove _ _ => .keep

/-- What a change does to the names in a category. -/
def onNames (category : String) : Change → Step
  | .override c name _ => if c = category then .write name else .keep
  | .remove c name => if c = category then .erase name else .keep

variable {category name : String} {change : Change}

theorem onCategories_eq_write_iff :
    change.onCategories = .write category ↔
      ∃ n source, change = .override category n source := by
  cases change with
  | override c n source => simp [onCategories, eq_comm]
  | remove c n => simp [onCategories]

theorem onNames_eq_write_iff :
    change.onNames category = .write name ↔ ∃ source, change = .override category name source := by
  cases change with
  | override c n source => by_cases hc : c = category <;> simp [onNames, hc]
  | remove c n => by_cases hc : c = category <;> simp [onNames, hc]

theorem onNames_eq_erase_iff :
    change.onNames category = .erase name ↔ change = .remove category name := by
  cases change with
  | override c n source => by_cases hc : c = category <;> simp [onNames, hc]
  | remove c n => by_cases hc : c = category <;> simp [onNames, hc]

/-- The change at a position writes into a category. -/
def WritesAt (changes : List Change) (category : String) (i : Nat) : Prop :=
  ∃ name source, changes[i]? = some (.override category name source)

end Change

namespace Catalog

open Change (WritesAt)

/-! ## Names in order -/

/-- The names of the categories, in order. -/
def categoryNames (s : Catalog) : List String :=
  Entries.keys s.toList

/-- The names of the templates in a category, in order. -/
def namesIn (s : Catalog) (category : String) : List String :=
  Entries.keys ((Entries.get? category s.toList).getD [])

variable (s : Catalog) (changes : List Change) (category : String)

theorem categoryNames_eq : s.categoryNames = s.categories.keys := by
  simp [categoryNames, toList, Keyed.keys, Entries.keys]

theorem get?_toList : Entries.get? category s.toList = (s.category? category).map Keyed.entries := by
  rw [category?, Keyed.get?, toList]
  induction s.categories.entries with
  | nil => rfl
  | cons entry rest ih =>
    rw [List.map_cons, Entries.get?, Entries.get?, ih]
    by_cases h : entry.1 = category <;> simp [h]

theorem namesIn_eq : s.namesIn category = ((s.category? category).getD Keyed.empty).keys := by
  rw [namesIn, get?_toList]
  cases s.category? category <;> rfl

theorem mem_categoryNames_iff :
    category ∈ s.categoryNames ↔ (s.category? category).isSome = true := by
  rw [categoryNames_eq, Keyed.mem_keys_iff, category?]

theorem mem_namesIn_iff (name : String) :
    name ∈ s.namesIn category ↔ (s.source? category name).isSome = true := by
  rw [namesIn_eq, Keyed.mem_keys_iff, source?]
  cases s.category? category <;> simp [Keyed.empty, Keyed.get?, Entries.get?]

theorem nodup_categoryNames : s.categoryNames.Nodup := by
  rw [categoryNames_eq]
  exact s.categories.nodup_keys

theorem nodup_namesIn : (s.namesIn category).Nodup := by
  rw [namesIn_eq]
  exact Keyed.nodup_keys _

/-! ## All templates -/

/-- All templates, each with its category and its name. -/
def templates (s : Catalog) : List (String × String × String) :=
  s.toList.flatMap fun entry => entry.2.map fun template => (entry.1, template)

theorem mem_templates_iff {s : Catalog} {category name source : String} :
    (category, name, source) ∈ s.templates ↔ s.source? category name = some source := by
  have hcategory (m : Keyed String) : (category, m) ∈ s.categories.entries ↔
      s.category? category = some m := (Entries.get?_eq_some_iff s.categories.nodup).symm
  have hname (m : Keyed String) : (name, source) ∈ m.entries ↔ m.get? name = some source :=
    (Entries.get?_eq_some_iff m.nodup).symm
  rw [templates, List.mem_flatMap, source?]
  constructor
  · rintro ⟨entry, hentry, hmem⟩
    obtain ⟨⟨c, m⟩, hm, rfl⟩ := List.mem_map.mp hentry
    obtain ⟨⟨n, v⟩, hn, heq⟩ := List.mem_map.mp hmem
    cases heq
    rw [(hcategory m).mp hm]
    exact (hname m).mp hn
  · intro h
    cases hm : s.category? category with
    | none =>
      rw [hm] at h
      cases h
    | some m =>
      rw [hm] at h
      refine ⟨(category, m.entries), List.mem_map.mpr ⟨(category, m), (hcategory m).mpr hm, rfl⟩, ?_⟩
      exact List.mem_map.mpr ⟨(name, source), (hname m).mpr h, rfl⟩

/-! ## Changes as steps -/

/-- **A step for the categories.** -/
theorem categoryNames_withChanges_singleton (change : Change) :
    (s.withChanges [change]).categoryNames = change.onCategories.apply s.categoryNames := by
  rw [categoryNames_eq, categoryNames_eq]
  cases change with
  | override c n source => exact Keyed.keys_insert _ _ _
  | remove c n =>
    show (Change.apply (.remove c n) s.categories).keys = s.categories.keys
    rw [Change.apply]
    cases h : s.categories.get? c with
    | none => rfl
    | some templates =>
      have hthere : c ∈ s.categories.keys := by
        rw [Keyed.mem_keys_iff, h]
        rfl
      rw [Keyed.keys_insert, if_pos hthere]

/-- **A step for the names in a category.** -/
theorem namesIn_withChanges_singleton (change : Change) :
    (s.withChanges [change]).namesIn category =
      (change.onNames category).apply (s.namesIn category) := by
  rw [namesIn_eq, namesIn_eq]
  cases change with
  | override c n source =>
    rw [category?_override, Change.onNames]
    by_cases hc : c = category
    · subst hc
      rw [if_pos rfl, if_pos rfl, Option.getD_some, Keyed.keys_insert]
      rfl
    · have hc' : ¬ category = c := fun e => hc e.symm
      rw [if_neg hc', if_neg hc]
      rfl
  | remove c n =>
    rw [category?_remove, Change.onNames]
    by_cases hc : c = category
    · subst hc
      rw [if_pos rfl, if_pos rfl]
      cases s.category? c with
      | none => rfl
      | some templates => exact Keyed.keys_erase _ _
    · have hc' : ¬ category = c := fun e => hc e.symm
      rw [if_neg hc', if_neg hc]
      rfl

theorem categoryNames_withChanges :
    (s.withChanges changes).categoryNames =
      keysAfter s.categoryNames (changes.map Change.onCategories) := by
  induction changes generalizing s with
  | nil => rfl
  | cons change rest ih =>
    rw [withChanges_cons, ih, categoryNames_withChanges_singleton]
    rfl

theorem namesIn_withChanges :
    (s.withChanges changes).namesIn category =
      keysAfter (s.namesIn category) (changes.map (Change.onNames category)) := by
  induction changes generalizing s with
  | nil => rfl
  | cons change rest ih =>
    rw [withChanges_cons, ih, namesIn_withChanges_singleton]
    rfl

/-! ## What comes in with a change -/

/-- The change at a position brings a template in: it writes the template, which was not there after
the changes before. -/
def BringsIn (s : Catalog) (changes : List Change) (category name : String) (i : Nat) : Prop :=
  (∃ source, changes[i]? = some (.override category name source)) ∧
    (s.withChanges (changes.take i)).source? category name = none

/-- A template comes in exactly where its name does. -/
theorem arrives_name_iff (name : String) (i : Nat) :
    Arrives (s.namesIn category) (changes.map (Change.onNames category)) name i ↔
      s.BringsIn changes category name i := by
  rw [Arrives, BringsIn, ← List.map_take, ← namesIn_withChanges, mem_namesIn_iff]
  simp [Change.onNames_eq_write_iff]

/-- A category that was not there comes in with the first change that writes into it. -/
theorem arrives_category_iff (habsent : category ∉ s.categoryNames) (i : Nat) :
    Arrives s.categoryNames (changes.map Change.onCategories) category i ↔
      IsLeast {j | WritesAt changes category j} i := by
  have hwritten : category ∈ (s.withChanges (changes.take i)).categoryNames ↔
      ∃ j, j < i ∧ WritesAt changes category j := by
    rw [mem_categoryNames_iff] at habsent
    rw [mem_categoryNames_iff, isSome_category?_withChanges, hasAfter,
      Bool.eq_false_iff.mpr habsent, Bool.false_or, Change.any_writesInto_iff]
    constructor
    · rintro ⟨name, source, hmem⟩
      obtain ⟨j, hj⟩ := List.mem_iff_getElem?.mp hmem
      rw [List.getElem?_take] at hj
      split at hj
      · next hlt => exact ⟨j, hlt, name, source, hj⟩
      · cases hj
    · rintro ⟨j, hlt, name, source, hj⟩
      refine ⟨name, source, List.mem_iff_getElem?.mpr ⟨j, ?_⟩⟩
      rw [List.getElem?_take, if_pos hlt, hj]
  rw [Arrives, ← List.map_take, ← categoryNames_withChanges, hwritten]
  have hwrite : (changes.map Change.onCategories)[i]? = some (.write category) ↔
      WritesAt changes category i := by
    simp [WritesAt, Change.onCategories_eq_write_iff]
  rw [hwrite]
  constructor
  · rintro ⟨hi, hfirst⟩
    refine ⟨hi, fun j hj => ?_⟩
    by_contra hlt
    exact hfirst ⟨j, Nat.lt_of_not_le hlt, hj⟩
  · rintro ⟨hi, hfirst⟩
    refine ⟨hi, ?_⟩
    rintro ⟨j, hlt, hj⟩
    exact absurd (hfirst hj) (Nat.not_le_of_lt hlt)

/-- **The order after changes.** No category and no name in a category is there twice. The categories
are those of the catalogue, in their order, and then the new ones in the order of the first changes
that write into them. In each category there are first the templates of the catalogue that no change
removes, in their order, and then all others that are left, in the order of the latest changes that
brought them in. -/
theorem order_withChanges (s : Catalog) (changes : List Change) :
    ((s.withChanges changes).categoryNames.Nodup ∧
      ∀ category, ((s.withChanges changes).namesIn category).Nodup) ∧
    (∃ new, (s.withChanges changes).categoryNames = s.categoryNames ++ new ∧
      (∀ category, category ∈ new ↔
        category ∉ s.categoryNames ∧
          ∃ name source, Change.override category name source ∈ changes) ∧
      InOrderOf (fun category i => IsLeast {j | WritesAt changes category j} i) new) ∧
    ∀ category, ∃ added,
      (s.withChanges changes).namesIn category =
          ((s.namesIn category).filter fun name => Change.remove category name ∉ changes) ++
            added ∧
        (∀ name, name ∈ added ↔
          ((s.withChanges changes).source? category name).isSome = true ∧
            ¬ (name ∈ s.namesIn category ∧ Change.remove category name ∉ changes)) ∧
        InOrderOf (fun name i => IsGreatest {j | s.BringsIn changes category name j} i) added := by
  refine ⟨⟨nodup_categoryNames _, fun category => nodup_namesIn _ category⟩, ?_, ?_⟩
  · obtain ⟨new, hnames, horder⟩ :=
      Keyed.keysAfter_eq s.categoryNames (changes.map Change.onCategories)
    -- No change erases a category.
    have hkept : (s.categoryNames.filter fun c =>
        Step.erase c ∉ changes.map Change.onCategories) = s.categoryNames := by
      refine List.filter_eq_self.mpr fun c _ => ?_
      rw [decide_eq_true_eq, List.mem_map]
      rintro ⟨_ | _, -, h⟩ <;> cases h
    rw [hkept, ← categoryNames_withChanges] at hnames
    have hnodup := nodup_categoryNames (s.withChanges changes)
    rw [hnames, List.nodup_append] at hnodup
    have hnew : ∀ category ∈ new, category ∉ s.categoryNames := fun category hcategory hold =>
      hnodup.2.2 category hold category hcategory rfl
    refine ⟨new, hnames, ?_, ?_⟩
    · intro category
      have hthere : category ∈ s.categoryNames ++ new ↔
          category ∈ s.categoryNames ∨
            ∃ name source, Change.override category name source ∈ changes := by
        rw [← hnames, mem_categoryNames_iff, isSome_category?_withChanges, hasAfter,
          Bool.or_eq_true, Change.any_writesInto_iff, mem_categoryNames_iff]
      rw [List.mem_append] at hthere
      constructor
      · intro hcategory
        have habsent := hnew category hcategory
        exact ⟨habsent, (hthere.mp (Or.inr hcategory)).resolve_left habsent⟩
      · rintro ⟨habsent, hwritten⟩
        exact (hthere.mpr (Or.inr hwritten)).resolve_left habsent
    · refine horder.congr fun category hcategory i => ?_
      simp only [arrives_category_iff s changes category (hnew category hcategory)]
      constructor
      · exact fun hi => ⟨hi, fun j hj => (hj.unique hi).le⟩
      · exact fun hi => hi.1
  · intro category
    obtain ⟨added, hnames, horder⟩ :=
      Keyed.keysAfter_eq (s.namesIn category) (changes.map (Change.onNames category))
    have hremoved (name : String) : Step.erase name ∈ changes.map (Change.onNames category) ↔
        Change.remove category name ∈ changes := by
      simp [List.mem_map, Change.onNames_eq_erase_iff]
    simp only [hremoved, ← namesIn_withChanges] at hnames
    have hnodup := nodup_namesIn (s.withChanges changes) category
    rw [hnames, List.nodup_append] at hnodup
    refine ⟨added, hnames, ?_, ?_⟩
    · intro name
      rw [← mem_namesIn_iff, hnames, List.mem_append, List.mem_filter, decide_eq_true_eq]
      constructor
      · intro hname
        refine ⟨Or.inr hname, fun hkept => ?_⟩
        have hmem : name ∈ (s.namesIn category).filter fun n =>
            Change.remove category n ∉ changes := by
          rw [List.mem_filter, decide_eq_true_eq]
          exact hkept
        exact hnodup.2.2 name hmem name hname rfl
      · rintro ⟨hthere, hnot⟩
        exact hthere.resolve_left hnot
    · refine horder.congr fun name _ i => ?_
      simp only [arrives_name_iff]

end Catalog

end SqlDialect.Template
