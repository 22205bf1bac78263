import SqlDialect.Proofs.Template.Missing
import SqlDialect.Proofs.Text.Scan
import SqlDialect.Template.Engines

/-!
# Balanced templates

What a template writes depends on its parameters, but where the reader of quotes and brackets ends
up does not, as long as what is filled in is closed: `Template.scan` follows the reader through the
template itself. It passes over a place to fill in, which may not stand inside a quote, and it wants
both sides of a choice to end alike. A template through which it comes back to where it started is
balanced, and that can be checked for each template of a catalogue.

Main statements: `scan_render`, by which following a template is reading what it writes; and
`renderSource_isClosed`, by which filling in a template for functions, expressions or types with
closed texts gives a closed text, unless a parameter was not given.
-/

namespace SqlDialect.Template

open Text (Marks Position)
open Text.Position (within)

/-- Where the reader ends up behind a template that is filled in with closed texts. -/
def scan (m : Marks) (p : Position) : Template → Option Position
  | .done => some p
  | .text s rest => (Text.scan m p s.toList).bind fun next => rest.scan m next
  | .output (.name _) rest => if p.quote = none then rest.scan m p else none
  | .output _ _ => none
  | .choice _ yes no rest =>
    (yes.scan m p).bind fun next => if no.scan m p = some next then rest.scan m next else none

/-- The reader comes out of the template as it went in. -/
def IsBalanced (m : Marks) (t : Template) : Prop :=
  t.scan m (within 0) = some (within 0)

instance (m : Marks) (t : Template) : Decidable (t.IsBalanced m) :=
  inferInstanceAs (Decidable (_ = _))

/-- Whether a source is one of a balanced template. -/
def isBalancedSource (m : Marks) (source : String) : Bool :=
  match ofSource? source with
  | some t => t.scan m (within 0) = some (within 0)
  | none => false

/-- Every value among the parameters is closed when it is written out. -/
def Parameters.AreClosed (m : Marks) (params : Parameters) : Prop :=
  ∀ entry ∈ params, Text.IsClosed m entry.2.shown

variable {m : Marks} {params : Parameters}

/-! ## Following a template -/

theorem follow_eq_ok {first second : Except Failure String} {s : String}
    (h : follow first second = .ok s) : ∃ a b, first = .ok a ∧ second = .ok b ∧ s = a ++ b := by
  cases first with
  | error e => cases h
  | ok a =>
    cases second with
    | error e => cases h
    | ok b =>
      cases h
      exact ⟨a, b, rfl, rfl, rfl⟩

/-- **Following a template is reading what it writes.** -/
theorem scan_render {t : Template} (hparams : params.AreClosed m) {p p' : Position}
    (h : t.scan m p = some p') {s : String} (hs : t.render params = .ok s) :
    Text.scan m p s.toList = some p' := by
  induction t generalizing p p' s with
  | done =>
    cases h
    cases hs
    rfl
  | text front rest ih =>
    obtain ⟨next, hnext, hrest⟩ := Option.bind_eq_some_iff.mp h
    obtain ⟨a, b, ha, hb, rfl⟩ := follow_eq_ok hs
    cases ha
    rw [String.toList_append, Text.scan_append_of_eq hnext]
    exact ih hrest hb
  | output term rest ih =>
    cases term with
    | name n =>
      obtain ⟨quote, depth⟩ := p
      rw [scan] at h
      split at h
      · next hquote =>
        obtain rfl : quote = none := hquote
        obtain ⟨a, b, ha, hb, rfl⟩ := follow_eq_ok hs
        cases hn : Entries.get? n params with
        | none =>
          rw [(eval_name params n).mpr hn] at ha
          cases ha
        | some v =>
          obtain rfl : v.shown = a := by simpa [Term.eval, hn, Except.map] using ha
          -- A value that is closed leaves the reader where it was, in any number of brackets.
          have hv : Text.IsClosed m v.shown := hparams _ (Entries.mem_of_get? hn)
          have hread : Text.scan m ⟨none, depth⟩ v.shown.toList = some ⟨none, depth⟩ :=
            hv.scan depth
          rw [String.toList_append, Text.scan_append_of_eq hread]
          exact ih h hb
      · cases h
    | literal v => cases h
    | not term => cases h
    | and left right => cases h
    | or left right => cases h
  | choice test yes no rest ihy ihn ihr =>
    obtain ⟨next, hyes, hboth⟩ := Option.bind_eq_some_iff.mp h
    split at hboth
    · next hno =>
      rw [render] at hs
      split at hs
      · cases hs
      · next v htest =>
        obtain ⟨a, b, ha, hb, rfl⟩ := follow_eq_ok hs
        rw [String.toList_append]
        -- Whichever side was taken, the rest is read from the same position.
        split at ha
        · rw [Text.scan_append_of_eq (ihy hyes ha)]
          exact ihr hboth hb
        · rw [Text.scan_append_of_eq (ihn hno ha)]
          exact ihr hboth hb
    · cases hboth

/-- A balanced template that is filled in with closed texts gives a closed text, or it lacks a
parameter. -/
theorem renderSource_isClosed {source : String} (h : isBalancedSource m source = true)
    (hparams : params.AreClosed m) :
    (∃ s, renderSource source params = .ok s ∧ Text.IsClosed m s) ∨
      ∃ n, renderSource source params = .error (.undefinedParameter n) ∧
        Entries.get? n params = none := by
  rw [isBalancedSource] at h
  rw [renderSource]
  cases ht : ofSource? source with
  | none =>
    rw [ht] at h
    cases h
  | some t =>
    rw [ht] at h
    have hbalanced : t.IsBalanced m := of_decide_eq_true h
    cases hs : t.render params with
    | ok s => exact Or.inl ⟨s, hs, scan_render hparams hbalanced hs⟩
    | error e =>
      obtain ⟨n, rfl, hn⟩ := render_error hs
      exact Or.inr ⟨n, hs, hn⟩

/-! ## The templates of the engines -/

namespace Catalog

/-- The categories whose templates are pieces of SQL. -/
def sqlCategories : List String := ["functions", "expressions", "types"]

/-- Every template of a category is balanced. -/
def isBalancedIn (m : Marks) (s : Catalog) (category : String) : Bool :=
  match s.category? category with
  | some templates => templates.entries.all fun entry => isBalancedSource m entry.2
  | none => true

/-- All templates of both engines that are pieces of SQL are balanced. -/
theorem isBalancedIn_engines {category : String} (h : category ∈ sqlCategories) :
    mysql.isBalancedIn .sql category = true ∧ doris.isBalancedIn .sql category = true := by
  have hall : ∀ c ∈ sqlCategories,
      mysql.isBalancedIn .sql c = true ∧ doris.isBalancedIn .sql c = true := by
    decide +kernel
  exact hall category h

/-- The source of a template of a balanced category is balanced. -/
theorem isBalancedSource_of_source? {s : Catalog} {category name source : String}
    (h : s.isBalancedIn m category = true) (hs : s.source? category name = some source) :
    isBalancedSource m source = true := by
  rw [isBalancedIn] at h
  rw [source?] at hs
  split at hs
  · next templates hc =>
    rw [hc] at h
    have hmem : (name, source) ∈ templates.entries := Entries.mem_of_get? hs
    have hall := List.all_eq_true.mp h (name, source) hmem
    exact hall
  · cases hs

end Catalog

end SqlDialect.Template
