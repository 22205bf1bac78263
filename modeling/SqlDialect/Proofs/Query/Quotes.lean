import SqlDialect.Proofs.Text.Replacement
import SqlDialect.Query.Basic
import SqlDialect.Zone.Excerpt

/-!
# Two ways to quote a name

A query can quote a name itself, and its templates say how others are to do it: they hold the mark
around a name and the text that stands for the mark inside a name. The mark is the same for both
engines. The text inside is the mark twice for one engine, which is what the query writes too; the
other engine changes it to a mark behind a backslash, so there the two ways part as soon as a mark
stands in the name.

Main statements: `quotings_agree_iff` and `quotings_of_inner_backtick`.
-/

namespace SqlDialect

namespace Identifier

/-- A name between two marks, in which `inner` stands for every mark. -/
def quoteWith (mark inner name : String) : String :=
  mark ++ Text.replace mark inner name ++ mark

/-- Writing the mark twice is one of the ways to quote. -/
theorem quoteIdentifier_eq_quoteWith (name mark : String) :
    quoteIdentifier name mark = quoteWith mark (mark ++ mark) name := by
  rw [quoteIdentifier, quoteWith, Text.replace, Text.doubled, String.toList_append]

/-- What stands for a mark of one character shows in a quoted name as soon as the mark does. -/
theorem quoteWith_eq_iff {mark : Char} {inner inner' : String}
    (hlength : inner.toList.length = inner'.toList.length) (hne : inner ≠ inner') (name : String) :
    quoteWith (String.ofList [mark]) inner name = quoteWith (String.ofList [mark]) inner' name ↔
      mark ∉ name.toList := by
  have hchars : inner.toList ≠ inner'.toList := fun h => hne (String.toList_inj.mp h)
  rw [← Text.replaceAll_singleton_eq_iff mark hlength hchars, quoteWith, quoteWith, Text.replace,
    Text.replace, String.toList_ofList, ← String.toList_inj]
  simp

end Identifier

open Identifier (backtick)

namespace Engine

/-- What the templates of an engine put for a backtick inside a quoted name. -/
def innerBacktick : Engine → String
  | .mysql => "\x60\x60"
  | .doris => "\\\x60"

theorem source?_identifiers (e : Engine) :
    e.rules.templates.source? "quotes" "identifiers" = some (String.ofList [backtick]) := by
  cases e <;> decide +kernel

theorem source?_escape (e : Engine) :
    e.rules.templates.source? "quotes" "escape" = some e.innerBacktick := by
  cases e <;> decide +kernel

end Engine

namespace Query

variable {zones : Zone.Lookup}

/-- A name quoted as the templates of a query say, if they say it. -/
def quotedByTemplates? (q : Query zones) (name : String) : Option String :=
  match q.sqlTemplates.source? "quotes" "identifiers", q.sqlTemplates.source? "quotes" "escape" with
  | some mark, some inner => some (Identifier.quoteWith mark inner name)
  | _, _ => none

theorem quotedByTemplates?_eq (q : Query zones) (name : String) :
    q.quotedByTemplates? name =
      some (Identifier.quoteWith (String.ofList [backtick]) q.engine.innerBacktick name) := by
  rw [quotedByTemplates?, sqlTemplates, rules, Engine.source?_identifiers, Engine.source?_escape]

theorem escapeColumnName_eq (q : Query zones) (name : String) :
    q.escapeColumnName (.text name) =
      .ok (Identifier.quoteWith (String.ofList [backtick]) Engine.mysql.innerBacktick name) := by
  rw [escapeColumnName_rule, Identifier.quoteValue_text, Identifier.quoteIdentifier_eq_quoteWith]
  rfl

/-- **When the two ways to quote agree.** Whatever the query and the name are, both ways give a
text. They give the same one for every name if the engine is MySQL, and if it is Doris exactly for
the names without a backtick. -/
theorem quotings_agree_iff (q : Query zones) (name : String) :
    ∃ s t, q.quotedByTemplates? name = some s ∧ q.escapeColumnName (.text name) = .ok t ∧
      (s = t ↔ q.engine = .mysql ∨ backtick ∉ name.toList) := by
  refine ⟨_, _, q.quotedByTemplates?_eq name, q.escapeColumnName_eq name, ?_⟩
  cases hengine : q.engine with
  | mysql => exact iff_of_true rfl (Or.inl rfl)
  | doris =>
    rw [Identifier.quoteWith_eq_iff (by decide) (by decide)]
    simp

/-- A backtick in a name stands behind a backslash by the templates for Doris, and is written twice
by the query. -/
theorem quotings_of_inner_backtick :
    (⟨.doris, ⟨"UTC", .text "pre_aggregations", by decide⟩⟩ : Query Zone.excerpt).quotedByTemplates?
        "a\x60b" = some "\x60a\\\x60b\x60" ∧
      (⟨.doris, ⟨"UTC", .text "pre_aggregations", by decide⟩⟩ : Query Zone.excerpt).escapeColumnName
        (.text "a\x60b") = .ok "\x60a\x60\x60b\x60" ∧
      "\x60a\\\x60b\x60" ≠ "\x60a\x60\x60b\x60" := by
  refine ⟨?_, ?_, by decide⟩
  · rw [quotedByTemplates?_eq]
    decide
  · rw [escapeColumnName_eq]
    rfl

end Query

end SqlDialect
