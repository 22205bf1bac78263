import SqlDialect.Template.Parse
import SqlDialect.Outcome

/-!
# Template catalogues

A catalogue holds the sources of templates under a category and a name. It is never changed in
place: `withChanges` makes a new one by writing and removing single templates. A removal leaves the
category where it is, even if it was the last template in it, and does not make a category either.

Main statements: `lookup_missing_category` and `lookup_missing_name`, which of the two keys a failed
look-up is about.
-/

namespace SqlDialect.Template

/-- Templates under categories and names, in order. -/
structure Catalog where
  categories : Keyed (Keyed String)

/-- A change of one template. -/
inductive Change where
  | override (category name source : String)
  | remove (category name : String)
  deriving DecidableEq, Repr

/-- Applies a change to the categories of a catalogue. -/
def Change.apply : Change → Keyed (Keyed String) → Keyed (Keyed String)
  | .override category name source, m =>
    m.insert category (((m.get? category).getD Keyed.empty).insert name source)
  | .remove category name, m =>
    match m.get? category with
    | some templates => m.insert category (templates.erase name)
    | none => m

namespace Catalog

/-- The catalogue of an ordered list of categories, each an ordered list of templates. -/
def ofList (categories : List (String × List (String × String))) : Catalog :=
  ⟨Keyed.ofList (categories.map fun c => (c.1, Keyed.ofList c.2))⟩

/-- The categories in order, each with its templates in order. -/
def toList (c : Catalog) : List (String × List (String × String)) :=
  c.categories.entries.map fun entry => (entry.1, entry.2.entries)

/-- The catalogue after changes, one after another. -/
def withChanges (c : Catalog) (changes : List Change) : Catalog :=
  ⟨changes.foldl (fun m change => change.apply m) c.categories⟩

/-- The templates of a category. -/
def category? (c : Catalog) (category : String) : Option (Keyed String) :=
  c.categories.get? category

/-- The source of a template. -/
def source? (c : Catalog) (category name : String) : Option String :=
  match c.category? category with
  | some templates => templates.get? name
  | none => none

/-- The key under which something is looked up: a text, or a value under which there is nothing.
Lists and objects cannot be looked up at all. -/
def keyOf (v : Value) : Except Failure String :=
  match v with
  | .text s => .ok s
  | .list _ | .row _ | .object _ => .error .wrongType
  | v => .error (.missingKey v)

/-- The templates of a category, or the failure of the look-up. -/
def templatesOf (c : Catalog) (category : Value) : Except Failure (Keyed String) :=
  match keyOf category with
  | .error e => .error e
  | .ok key =>
    match c.category? key with
    | some templates => .ok templates
    | none => .error (.missingKey category)

/-- The source of a template, or the failure of the look-up: the category is looked up first. -/
def lookup (c : Catalog) (category name : Value) : Except Failure String :=
  match c.templatesOf category with
  | .error e => .error e
  | .ok templates =>
    match keyOf name with
    | .error e => .error e
    | .ok key =>
      match templates.get? key with
      | some source => .ok source
      | none => .error (.missingKey name)

/-- Fills in a template of the catalogue and notes the text down. -/
def render (c : Catalog) (category name : Value) (params : Parameters) : Outcome String :=
  match c.lookup category name with
  | .error e => .fail e
  | .ok source =>
    match renderSource source params with
    | .error e => .fail e
    | .ok rendered =>
      (Outcome.note .templates .debug
        ("rendered template " ++ category.shown ++ "." ++ name.shown ++ ": " ++ rendered)).bind
          fun _ => .ok rendered

/-- Whether two catalogues hold the same templates, without regard to order. -/
def same (c d : Catalog) : Bool :=
  c.toList.length == d.toList.length &&
    c.toList.all fun entry =>
      match d.category? entry.1 with
      | some templates =>
        entry.2.length == templates.entries.length &&
          entry.2.all fun t => templates.get? t.1 == some t.2
      | none => false

/-- A catalogue as a value: an object of objects. -/
def toValue (c : Catalog) : Value :=
  .object (c.toList.map fun entry => (entry.1, .object (entry.2.map fun t => (t.1, .text t.2))))

/-- How a catalogue is shown. -/
def shown (c : Catalog) : String :=
  "SqlTemplates(" ++ c.toValue.quoted ++ ")"

/-- A look-up fails with the category if there is no such category. -/
theorem lookup_missing_category {c : Catalog} {category : String} (name : Value)
    (h : c.category? category = none) :
    c.lookup (.text category) name = .error (.missingKey (.text category)) := by
  simp [lookup, templatesOf, keyOf, h]

/-- A look-up fails with the name if the category is there and the name is not. -/
theorem lookup_missing_name {c : Catalog} {category name : String} {templates : Keyed String}
    (h : c.category? category = some templates) (hn : templates.get? name = none) :
    c.lookup (.text category) (.text name) = .error (.missingKey (.text name)) := by
  simp [lookup, templatesOf, keyOf, h, hn]

end Catalog

end SqlDialect.Template
