import SqlDialect.Proofs.Database.SortKeys
import SqlDialect.Proofs.Template.Segments

/-!
# Orders of rows with missing values

The template for an order is a key that says where missing values go, and for Doris, which has no
words for that, two keys, of which the first one sorts on whether a value is missing. A value that
is missing counts as one there, so that it is the descending direction that brings missing values to
the front, whatever the direction of the second key is. What is written for Doris is therefore read in
the grammar without those words.

Main statement: `sort_orders_agree`, which keys the texts of both templates are, and that they stand
for the same order.
-/

universe u v

namespace SqlDialect.Template

open Database
open Segment (mentions written)

namespace Catalog

/-- A template of an engine becomes the texts of its segments if all it mentions is given. -/
theorem render_of_given {s : Catalog} (hs : s ∈ [mysql, doris]) {category name : String}
    {segments : List Segment} (h : (s.source? category name).map segmentsOf = some segments)
    {params : Parameters} {value : String → Value}
    (hvalue : ∀ n ∈ mentions segments, Entries.get? n params = some (value n)) :
    (s.render (.text category) (.text name) params).result =
      .ok (Text.concat (segments.map (written value))) := by
  obtain ⟨source, hsource, rfl⟩ := Option.map_eq_some_iff.mp h
  rw [render_result, lookup_of_source? hsource]
  show renderSource source params = _
  rw [renderSource_of_isSegmented (isSegmented_engines hs hsource), Segment.fillAll_of_given hvalue]

/-- The values of the parameters of an order. -/
def sortValue (operand ascending missingFirst : Value) (name : String) : Value :=
  if name = "expr" then operand else if name = "asc" then ascending else missingFirst

variable {params : Parameters} {operand ascending missingFirst : Value}

/-- The template for MySQL is written as a key that says where missing values go. -/
theorem sort_mysql (hgiven : ∀ n ∈ ["expr", "asc", "nulls_first"],
      Entries.get? n params = some (sortValue operand ascending missingFirst n)) :
    (mysql.render (.text "expressions") (.text "sort") params).result =
      .ok (SortKey.written operand.shown
        (.value (if ascending.isTrue then .ascending else .descending)
          (some (if missingFirst.isTrue then .first else .last))) []) := by
  have hsegments : (mysql.source? "expressions" "sort").map segmentsOf =
      some [.parameter "expr", .literal " ", .choice "asc" "ASC" "DESC", .literal " NULLS ",
        .choice "nulls_first" "FIRST" "LAST"] := by decide +kernel
  rw [render_of_given (by simp) hsegments hgiven]
  show Except.ok (Text.concat [operand.shown, " ", if ascending.isTrue then _ else _, " NULLS ",
    if missingFirst.isTrue then _ else _]) = _
  refine congrArg Except.ok (String.toList_inj.mp ?_)
  cases ascending.isTrue <;> cases missingFirst.isTrue <;>
    simp [Text.concat, SortKey.written, SortKey.words, Direction.word, Placement.words]

/-- The template for Doris is written as a key on whether the operand is missing and one on the
operand, in which nothing is said about missing values. -/
theorem sort_doris (hgiven : ∀ n ∈ ["expr", "asc", "nulls_first"],
      Entries.get? n params = some (sortValue operand ascending missingFirst n)) :
    (doris.render (.text "expressions") (.text "sort") params).result =
      .ok (SortKey.written operand.shown
        (.isMissing (if missingFirst.isTrue then .descending else .ascending))
        [.value (if ascending.isTrue then .ascending else .descending) none]) := by
  have hsegments : (doris.source? "expressions" "sort").map segmentsOf =
      some [.parameter "expr", .literal " IS NULL ", .choice "nulls_first" "DESC" "ASC",
        .literal ", ", .parameter "expr", .literal " ", .choice "asc" "ASC" "DESC"] := by
    decide +kernel
  -- The operand is mentioned twice, and the end for missing values before the direction.
  have hmentions : ∀ n ∈ ["expr", "nulls_first", "expr", "asc"],
      Entries.get? n params = some (sortValue operand ascending missingFirst n) := by
    intro n hn
    refine hgiven n ?_
    simp only [List.mem_cons, List.not_mem_nil, or_false] at hn ⊢
    rcases hn with rfl | rfl | rfl | rfl <;> simp
  rw [render_of_given (by simp) hsegments hmentions]
  show Except.ok (Text.concat [operand.shown, " IS NULL ", if missingFirst.isTrue then _ else _,
    ", ", operand.shown, " ", if ascending.isTrue then _ else _]) = _
  refine congrArg Except.ok (String.toList_inj.mp ?_)
  cases ascending.isTrue <;> cases missingFirst.isTrue <;>
    simp [Text.concat, SortKey.written, SortKey.words, Direction.word, Placement.words]

/-- **The orders of both engines are the same.** Whatever the operand is and whatever values select
the direction and the end for missing values, both templates can be filled in. The text for MySQL is a
key on the operand that says where missing values go; the text for Doris is a key on whether the
operand is missing and one on the operand, and says nothing about missing values. Both stand for one
order of values, wherever a database puts missing values of its own accord. This order has them at the
end that is asked for, and the others ascend or descend as asked for. -/
theorem sort_orders_agree (hoperand : Entries.get? "expr" params = some operand)
    (hascending : Entries.get? "asc" params = some ascending)
    (hmissing : Entries.get? "nulls_first" params = some missingFirst) :
    ∃ mysqlText dorisText,
      (mysql.render (.text "expressions") (.text "sort") params).result = .ok mysqlText ∧
      (doris.render (.text "expressions") (.text "sort") params).result = .ok dorisText ∧
      SortKey.read? .withPlacement operand.shown mysqlText =
        some [.value (if ascending.isTrue then .ascending else .descending)
          (some (if missingFirst.isTrue then .first else .last))] ∧
      SortKey.read? .withoutPlacement operand.shown dorisText =
        some [.isMissing (if missingFirst.isTrue then .descending else .ascending),
          .value (if ascending.isTrue then .ascending else .descending) none] ∧
      ∀ {α : Type u} [LinearOrder α] (rank rank' : Direction → α → Ordering),
        ∃ order : Option α → Option α → Ordering,
          orderOf? .withPlacement rank operand.shown mysqlText = some order ∧
          orderOf? .withoutPlacement rank' operand.shown dorisText = some order ∧
          order none none = .eq ∧
          (∀ a, order none (some a) = if missingFirst.isTrue then .lt else .gt) ∧
          (∀ a, order (some a) none = if missingFirst.isTrue then .gt else .lt) ∧
          (∀ a b, order (some a) (some b) =
            if ascending.isTrue then Ord.compare a b else Ord.compare b a) ∧
          ∀ {ρ : Type v} (value : ρ → Option α) (rows : List ρ),
            Sorted order value rows ↔
              withMissingAt missingFirst.isTrue value rows = rows ∧
                (rows.filterMap value).Pairwise fun a b =>
                  if ascending.isTrue then a ≤ b else b ≤ a := by
  have hgiven : ∀ n ∈ ["expr", "asc", "nulls_first"],
      Entries.get? n params = some (sortValue operand ascending missingFirst n) := by
    intro n hn
    simp only [List.mem_cons, List.not_mem_nil, or_false] at hn
    rcases hn with rfl | rfl | rfl
    · exact hoperand
    · exact hascending
    · exact hmissing
  have hplacing (direction : Direction) (placement : Placement) :
      SortKey.read? .withPlacement operand.shown
          (SortKey.written operand.shown (.value direction (some placement)) []) =
        some [.value direction (some placement)] :=
    SortKey.read?_written operand.shown (by simp [Grammar.has])
  have htwoKeys (direction direction' : Direction) :
      SortKey.read? .withoutPlacement operand.shown
          (SortKey.written operand.shown (.isMissing direction) [.value direction' none]) =
        some [.isMissing direction, .value direction' none] :=
    SortKey.read?_written operand.shown (by simp [Grammar.has])
  refine ⟨_, _, sort_mysql hgiven, sort_doris hgiven, hplacing _ _, htwoKeys _ _, ?_⟩
  intro α _ rank rank'
  refine ⟨valueOrder ascending.isTrue missingFirst.isTrue, ?_, ?_, rfl, fun _ => rfl, fun _ => rfl,
    fun _ _ => rfl, sorted_valueOrder_iff _ _⟩
  · rw [orderOf?, hplacing, Option.map_some]
    exact congrArg some (compareAll_keysByPlacement rank _ _)
  · rw [orderOf?, htwoKeys, Option.map_some]
    exact congrArg some (compareAll_keysByMissing rank' _ _)

/-- Prices from the highest to the lowest, those that are missing first. -/
theorem sort_prices_descending :
    ∃ mysqlText dorisText,
      (mysql.render (.text "expressions") (.text "sort")
        [("asc", .null), ("nulls_first", .int 1), ("expr", .text "price")]).result =
          .ok mysqlText ∧
      (doris.render (.text "expressions") (.text "sort")
        [("asc", .null), ("nulls_first", .int 1), ("expr", .text "price")]).result =
          .ok dorisText ∧
      SortKey.read? .withPlacement "price" mysqlText = some [.value .descending (some .first)] ∧
      SortKey.read? .withoutPlacement "price" dorisText =
        some [.isMissing .descending, .value .descending none] ∧
      ∀ rank rank' : Direction → Int → Ordering, ∃ order : Option Int → Option Int → Ordering,
        orderOf? .withPlacement rank "price" mysqlText = some order ∧
        orderOf? .withoutPlacement rank' "price" dorisText = some order ∧
        Sorted order id [none, none, some 7, some (-2)] ∧ ¬ Sorted order id [some 7, none] := by
  obtain ⟨mysqlText, dorisText, hmysql, hdoris, hplacing, hmissing, h⟩ :=
    @sort_orders_agree [("asc", .null), ("nulls_first", .int 1), ("expr", .text "price")]
      (.text "price") .null (.int 1) rfl rfl rfl
  refine ⟨mysqlText, dorisText, hmysql, hdoris, hplacing, hmissing, fun rank rank' => ?_⟩
  obtain ⟨order, horder, horder', -, -, -, -, hsorted⟩ := h rank rank'
  refine ⟨order, horder, horder', (hsorted _ _).mpr ⟨rfl, ?_⟩, fun h => ?_⟩
  · decide
  · exact absurd ((hsorted _ _).mp h).1 (by decide)

end Catalog

end SqlDialect.Template
