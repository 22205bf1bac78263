import SqlDialect.Template.Catalog

/-!
# Missing keys

Looking a template up, or filling one in, can fail in many ways: by a key under which there is
nothing, by a value that is no key, by a malformed source, or by a parameter that was not given.
Here the first is told from the others. The category is looked up before the name, so a failure is
about the category exactly if there is no such category, and about the name if the category is there
and the name is not. Filling in adds failures of its own, but never one about a key.

Main statements: `lookup_error` and `renderSource_error`, all that can fail; `lookup_missingKey_iff`,
which key a look-up misses; `render_missingKey_iff`, by which filling in misses the same key; and
`lookup_congr`, by which a look-up depends on no more of a catalogue than whether it has the category
and what it has as the template.
-/

namespace SqlDialect.Template

/-! ## Failures of filling in -/

/-- A term only fails by a parameter that was not given. -/
theorem Term.eval_error {params : Parameters} {t : Term} {e : Failure}
    (h : t.eval params = .error e) :
    ∃ n, e = .undefinedParameter n ∧ Entries.get? n params = none := by
  induction t with
  | name n =>
    rw [Term.eval] at h
    split at h
    · cases h
    · next hn =>
      cases h
      exact ⟨n, rfl, hn⟩
  | literal v => cases h
  | not t ih =>
    rw [Term.eval] at h
    split at h
    · cases h
    · next e' ht =>
      cases h
      exact ih ht
  | and left right ihl ihr =>
    rw [Term.eval] at h
    split at h
    · split at h
      · exact ihr h
      · cases h
    · next e' hl =>
      cases h
      exact ihl hl
  | or left right ihl ihr =>
    rw [Term.eval] at h
    split at h
    · split at h
      · cases h
      · exact ihr h
    · next e' hl =>
      cases h
      exact ihl hl

theorem follow_error {first second : Except Failure String} {e : Failure}
    (h : follow first second = .error e) : first = .error e ∨ second = .error e := by
  cases first with
  | error e' => exact Or.inl h
  | ok s =>
    cases second with
    | error e' => exact Or.inr h
    | ok t => cases h

/-- A template only fails by a parameter that was not given. -/
theorem render_error {params : Parameters} {t : Template} {e : Failure}
    (h : t.render params = .error e) :
    ∃ n, e = .undefinedParameter n ∧ Entries.get? n params = none := by
  induction t with
  | done => cases h
  | text s rest ih =>
    rcases follow_error h with hs | hrest
    · cases hs
    · exact ih hrest
  | output t rest ih =>
    rcases follow_error h with ht | hrest
    · cases hv : t.eval params with
      | ok v =>
        rw [hv] at ht
        cases ht
      | error e' =>
        rw [hv] at ht
        cases ht
        exact Term.eval_error hv
    · exact ih hrest
  | choice test yes no rest ihy ihn ihr =>
    rw [render] at h
    split at h
    · next e' htest =>
      cases h
      exact Term.eval_error htest
    · rcases follow_error h with hbranch | hrest
      · split at hbranch
        · exact ihy hbranch
        · exact ihn hbranch
      · exact ihr hrest

/-- Filling in the source of a template fails because it is malformed or a parameter is missing. -/
theorem renderSource_error {source : String} {params : Parameters} {e : Failure}
    (h : renderSource source params = .error e) :
    e = .malformedTemplate ∨ ∃ n, e = .undefinedParameter n := by
  rw [renderSource] at h
  split at h
  · obtain ⟨n, hn, -⟩ := render_error h
    exact Or.inr ⟨n, hn⟩
  · cases h
    exact Or.inl rfl

/-- Filling in the source of a template is never about a missing key. -/
theorem renderSource_ne_missingKey (source : String) (params : Parameters) (k : Value) :
    renderSource source params ≠ .error (.missingKey k) := by
  intro h
  rcases renderSource_error h with he | ⟨n, he⟩ <;> cases he

namespace Catalog

/-! ## Missing keys -/

/-- Filling in a template is looking it up and filling in its source. -/
theorem render_result (s : Catalog) (category name : Value) (params : Parameters) :
    (s.render category name params).result =
      (s.lookup category name).bind fun source => renderSource source params := by
  rw [render]
  cases s.lookup category name with
  | error e => rfl
  | ok source =>
    show _ = renderSource source params
    cases hr : renderSource source params <;> simp only [hr] <;> rfl

/-- A key is missing when a template is filled in exactly if it is missing when it is looked up. -/
theorem render_missingKey_iff (s : Catalog) (category name k : Value) (params : Parameters) :
    (s.render category name params).result = .error (.missingKey k) ↔
      s.lookup category name = .error (.missingKey k) := by
  rw [render_result]
  cases s.lookup category name with
  | error e => exact Iff.rfl
  | ok source =>
    constructor
    · intro h
      exact absurd h (renderSource_ne_missingKey source params k)
    · intro h
      cases h

/-- A look-up by texts. -/
theorem lookup_text (s : Catalog) (category name : String) :
    s.lookup (.text category) (.text name) =
      if (s.category? category).isSome then
        match s.source? category name with
        | some source => .ok source
        | none => .error (.missingKey (.text name))
      else .error (.missingKey (.text category)) := by
  cases h : s.category? category with
  | none => simp [lookup_missing_category _ h]
  | some templates =>
    cases hn : templates.get? name with
    | none => simp [lookup_missing_name h hn, source?, h, hn]
    | some source => simp [lookup, templatesOf, keyOf, source?, h, hn]

/-- Which key a look-up is missing. -/
theorem lookup_missingKey_iff (s : Catalog) (category name : String) (k : Value) :
    s.lookup (.text category) (.text name) = .error (.missingKey k) ↔
      (k = .text category ∧ (s.category? category).isSome = false) ∨
        (k = .text name ∧ (s.category? category).isSome = true ∧
          s.source? category name = none) := by
  rw [lookup_text]
  cases (s.category? category).isSome with
  | false => simp [eq_comm]
  | true => cases s.source? category name <;> simp [eq_comm]

/-- What is no key fails as such or as a key under which there is nothing. -/
theorem keyOf_error {v : Value} {e : Failure} (h : keyOf v = .error e) :
    e = .wrongType ∨ e = .missingKey v := by
  cases v <;> cases h <;> simp

theorem templatesOf_error {s : Catalog} {category : Value} {e : Failure}
    (h : s.templatesOf category = .error e) : e = .wrongType ∨ e = .missingKey category := by
  rw [templatesOf] at h
  split at h
  · next e' hkey =>
    cases h
    exact keyOf_error hkey
  · split at h
    · cases h
    · cases h
      exact Or.inr rfl

/-- A look-up fails by something that is no key or by a key that is missing. -/
theorem lookup_error {s : Catalog} {category name : Value} {e : Failure}
    (h : s.lookup category name = .error e) : e = .wrongType ∨ ∃ k, e = .missingKey k := by
  rw [lookup] at h
  split at h
  · next e' htemplates =>
    cases h
    exact (templatesOf_error htemplates).imp_right fun he => ⟨category, he⟩
  · split at h
    · next e' hkey =>
      cases h
      exact (keyOf_error hkey).imp_right fun he => ⟨name, he⟩
    · split at h
      · cases h
      · cases h
        exact Or.inr ⟨name, rfl⟩

/-- A key that can be looked up is a text. -/
theorem keyOf_eq_ok {v : Value} {key : String} (h : keyOf v = .ok key) : v = .text key := by
  cases v <;> cases h
  rfl

/-- A look-up by a name that is no key. -/
theorem lookup_text_error (s : Catalog) (category : String) {name : Value} {e : Failure}
    (hn : keyOf name = .error e) :
    s.lookup (.text category) name =
      if (s.category? category).isSome then .error e
      else .error (.missingKey (.text category)) := by
  cases h : s.category? category with
  | none => simp [lookup_missing_category name h]
  | some templates =>
    have ht : s.templatesOf (.text category) = .ok templates := by
      simp [templatesOf, keyOf, h]
    rw [lookup, ht]
    simp [hn]

/-- A template that is there stands in a category. -/
theorem isSome_category?_of_source? {s : Catalog} {category name source : String}
    (h : s.source? category name = some source) : (s.category? category).isSome = true := by
  rw [source?] at h
  cases hc : s.category? category with
  | none => simp [hc] at h
  | some templates => rfl

/-- A template that is there can be looked up. -/
theorem lookup_of_source? {s : Catalog} {category name source : String}
    (h : s.source? category name = some source) :
    s.lookup (.text category) (.text name) = .ok source := by
  rw [lookup_text, if_pos (isSome_category?_of_source? h), h]

/-- What is found by a look-up is a template under a name. -/
theorem lookup_eq_ok {s : Catalog} {category source : String} {name : Value}
    (h : s.lookup (.text category) name = .ok source) :
    ∃ n, name = .text n ∧ s.source? category n = some source := by
  cases hn : keyOf name with
  | error e =>
    rw [lookup_text_error s category hn] at h
    split at h <;> cases h
  | ok n =>
    obtain rfl := keyOf_eq_ok hn
    refine ⟨n, rfl, ?_⟩
    rw [lookup_text] at h
    split at h
    · split at h
      · next found hfound =>
        cases h
        exact hfound
      · cases h
    · cases h

/-- Looking a template up in two catalogues is the same if its category is in both or in neither,
and the template is the same. -/
theorem lookup_congr {s t : Catalog} {category name : Value}
    (hcategory : ∀ c, category = .text c →
      (s.category? c).isSome = (t.category? c).isSome)
    (hsource : ∀ c n, category = .text c → name = .text n → s.source? c n = t.source? c n) :
    s.lookup category name = t.lookup category name := by
  cases hc : keyOf category with
  | error e => rw [lookup, lookup, templatesOf, templatesOf, hc]
  | ok c =>
    obtain rfl := keyOf_eq_ok hc
    cases hn : keyOf name with
    | ok n =>
      obtain rfl := keyOf_eq_ok hn
      rw [lookup_text, lookup_text, hcategory c rfl, hsource c n rfl rfl]
    | error e => rw [lookup_text_error s c hn, lookup_text_error t c hn, hcategory c rfl]

/-- Filling a template in depends on the catalogue only by the look-up. -/
theorem render_congr {s t : Catalog} {category name : Value}
    (h : s.lookup category name = t.lookup category name) (params : Parameters) :
    s.render category name params = t.render category name params := by
  rw [render, render, h]

end Catalog

end SqlDialect.Template
