import SqlDialect.Proofs.Statement.Repetition
import SqlDialect.Proofs.Statement.TimeNest

/-!
# What becomes of an interval

A time is moved by an interval that is written as it is given, percent signs doubled: nobody looks at
what it says. But the operand is put where the placeholder stands in the rule, and by then the
interval is a part of the rule. An interval that holds the placeholder does not come out as it was
given: it has the operand inside, once more for each placeholder, and the statement has the
parameters of the operand as often.

Main statements: `compile_dateInterval`, by which a moved time is compiled to its rule with the
compiled operand in each place of the placeholder; `interval_verbatim_iff`, which intervals come out
as they were given; and `interval_with_placeholder`, one that does not.
-/

namespace SqlDialect

namespace Statement

/-- A moved time is compiled to its rule, percent signs doubled, in which the compiled operand stands
for each placeholder. -/
theorem compile_dateInterval {env : Environment} {style : Style} {e : Expression}
    {operand : Compiled}
    (h : ((Statement.expression e).compile env style).result = .ok operand) (isEarlier : Bool)
    (interval : Value) :
    ((Statement.expression (.dateInterval isEarlier e interval)).compile env style).result =
      .ok ⟨Text.replace placeholder operand.sql
          (Text.escapePercents (intervalRule isEarlier interval)),
        (List.replicate (Text.occurrences placeholder.toList
            (Text.escapePercents (intervalRule isEarlier interval)).toList)
          operand.parameters).flatten⟩ := by
  rw [← TimeNest.finish_below env style 1 e] at h
  obtain ⟨pieces, hpieces, hfinish⟩ := except_bind_eq_ok_iff.mp h
  rw [compile, Outcome.bind_result, TimeNest.render_lone, Expression.render_dateInterval,
    Outcome.mapResult_result]
  refine except_bind_eq_ok_iff.mpr ⟨wrap (intervalRule isEarlier interval) pieces, ?_,
    Pieces.finish_wrap hfinish _⟩
  exact congrArg (Except.map _) hpieces

/-- A date moved by an interval, as it is written. -/
def movedText (isEarlier : Bool) (date interval : String) : String :=
  (if isEarlier then "DATE_SUB(" else "DATE_ADD(") ++ date ++ ", INTERVAL " ++ interval ++ ")"

/-- The characters of a moved date, cut at separators that the placeholder does not hold. -/
theorem toList_movedText (isEarlier : Bool) (date interval : String) :
    (movedText isEarlier date interval).toList =
      (if isEarlier then "DATE_SUB" else "DATE_ADD").toList ++ '(' :: (date.toList ++
        (", INTERVAL".toList ++ ' ' :: (interval.toList ++ ')' :: []))) := by
  cases isEarlier <;> simp [movedText]

/-- The rule is a moved placeholder; doubling its percent signs doubles those of the interval. -/
theorem escapePercents_intervalRule (isEarlier : Bool) (interval : String) :
    Text.escapePercents (intervalRule isEarlier (.text interval)) =
      movedText isEarlier placeholder (Text.escapePercents interval) := by
  have hrule : intervalRule isEarlier (.text interval) =
      movedText isEarlier placeholder interval := by
    cases isEarlier <;> rfl
  have hplaceholder : Text.doublePercents placeholder.toList = placeholder.toList := by
    decide +kernel
  rw [hrule, ← String.toList_inj, toList_movedText, Text.escapePercents, String.toList_ofList,
    toList_movedText]
  cases isEarlier <;> simp [Text.escapePercents, Text.doublePercents, hplaceholder]

/-- The operand goes where the placeholder is, and into the interval wherever it is there. -/
theorem replace_movedText (isEarlier : Bool) (date interval : String) :
    Text.replace placeholder date (movedText isEarlier placeholder interval) =
      movedText isEarlier date (Text.replace placeholder date interval) := by
  have ho : placeholder.toList ≠ [] := by decide +kernel
  have hcall : Text.replaceAll placeholder.toList date.toList
      (if isEarlier then "DATE_SUB" else "DATE_ADD").toList =
        (if isEarlier then "DATE_SUB" else "DATE_ADD").toList :=
    Text.replaceAll_of_not_infix (by cases isEarlier <;> decide +kernel) _
  have hword : Text.replaceAll placeholder.toList date.toList ", INTERVAL".toList =
      ", INTERVAL".toList := Text.replaceAll_of_not_infix (by decide +kernel) _
  rw [← String.toList_inj, Text.toList_replace, toList_movedText, toList_movedText,
    Text.replaceAll_append_cons ho (by decide +kernel), Text.replaceAll_append_self ho,
    Text.replaceAll_append_cons ho (by decide +kernel),
    Text.replaceAll_append_cons ho (by decide +kernel), hcall, hword, Text.replaceAll_nil,
    Text.toList_replace]

theorem occurrences_movedText (isEarlier : Bool) (interval : String) :
    Text.occurrences placeholder.toList (movedText isEarlier placeholder interval).toList =
      Text.occurrences placeholder.toList interval.toList + 1 := by
  have ho : placeholder.toList ≠ [] := by decide +kernel
  have hcall : Text.occurrences placeholder.toList
      (if isEarlier then "DATE_SUB" else "DATE_ADD").toList = 0 :=
    (Text.occurrences_eq_zero_iff ho _).mpr (by cases isEarlier <;> decide +kernel)
  have hword : Text.occurrences placeholder.toList ", INTERVAL".toList = 0 :=
    (Text.occurrences_eq_zero_iff ho _).mpr (by decide +kernel)
  rw [toList_movedText, Text.occurrences_append_cons ho (by decide +kernel),
    Text.occurrences_append_self ho, Text.occurrences_append_cons ho (by decide +kernel),
    Text.occurrences_append_cons ho (by decide +kernel), hcall, hword, Text.occurrences_nil]
  omega

/-- Moved dates are written the same exactly if their intervals are. -/
theorem movedText_inj (isEarlier : Bool) (date interval interval' : String) :
    movedText isEarlier date interval = movedText isEarlier date interval' ↔
      interval = interval' := by
  simp [movedText]

/-- **Which intervals come out as they were given.** Whatever the operand and the interval are, a time
that is moved by the interval can be put together and is compiled. It is written as the compiled
operand and the interval, percent signs doubled, with the operand again for each placeholder in the
interval; it has the parameters of the operand as often as the operand. The interval is as it was
given, percent signs doubled, exactly if it does not hold the placeholder, or the operand is written
just like the placeholder. -/
theorem interval_verbatim_iff (env : Environment) (style : Style) (isEarlier : Bool) {o : Operand}
    {e : Expression} {operand : Compiled} (ho : o.asTime = .ok e)
    (hoperand : ((Statement.expression e).compile env style).result = .ok operand)
    (interval : String) :
    ∃ e' moved, Expression.moved isEarlier o (.text interval) = .ok e' ∧
      ((Statement.expression e').compile env style).result = .ok moved ∧
      moved.sql = movedText isEarlier operand.sql
        (Text.replace placeholder operand.sql (Text.escapePercents interval)) ∧
      moved.parameters = (List.replicate
        (Text.occurrences placeholder.toList (Text.escapePercents interval).toList + 1)
        operand.parameters).flatten ∧
      (moved.sql = movedText isEarlier operand.sql (Text.escapePercents interval) ↔
        ¬ placeholder.toList <:+: interval.toList ∨ operand.sql = placeholder) := by
  have hcompiled := compile_dateInterval hoperand isEarlier (.text interval)
  rw [escapePercents_intervalRule, replace_movedText, occurrences_movedText] at hcompiled
  have hmoved : Expression.moved isEarlier o (.text interval) =
      .ok (.dateInterval isEarlier e (.text interval)) := by
    rw [Expression.moved, ho]
    rfl
  refine ⟨_, _, hmoved, hcompiled, rfl, rfl, ?_⟩
  have hescaped : (Text.escapePercents interval).toList = Text.doublePercents interval.toList :=
    String.toList_ofList
  rw [movedText_inj, ← String.toList_inj, Text.toList_replace,
    Text.replaceAll_eq_self_iff (by decide +kernel), hescaped,
    Text.infix_doublePercents_iff (by decide +kernel), String.toList_inj]

/-- A parameter moved by an interval that holds the placeholder stands in the statement twice. -/
theorem interval_with_placeholder_and_parameter :
    ∃ e moved, Expression.moved true (.expression (.parameter "day" (.text "x")))
        (.text "__doris_operand__ %s") = .ok e ∧
      ((Statement.expression e).compile [] {}).result = .ok moved ∧
      moved.sql = "DATE_SUB(%s, INTERVAL %s %%s)" ∧
      moved.parameters = [("day_1", .text "x"), ("day_1", .text "x")] := by
  have hoperand : ((Statement.expression (.parameter "day" (.text "x"))).compile [] {}).result =
      .ok ⟨"%s", [("day_1", .text "x")]⟩ := rfl
  obtain ⟨e, moved, he, hcompiled, hsql, hparameters, -⟩ :=
    interval_verbatim_iff [] {} true (o := .expression (.parameter "day" (.text "x"))) rfl hoperand
      "__doris_operand__ %s"
  refine ⟨e, moved, he, hcompiled, hsql.trans (by decide +kernel), hparameters.trans ?_⟩
  have hcount : Text.occurrences placeholder.toList
      (Text.escapePercents "__doris_operand__ %s").toList = 1 := by decide +kernel
  rw [hcount]
  rfl

/-- An interval that holds the placeholder is written with the operand instead. -/
theorem interval_with_placeholder :
    ∃ e, Expression.moved false (.value (.text "d")) (.text "__doris_operand__ DAY") = .ok e ∧
      ((Statement.expression e).compile [] {}).result =
        .ok ⟨"DATE_ADD(d, INTERVAL d DAY)", []⟩ ∧
      "DATE_ADD(d, INTERVAL d DAY)" ≠
        movedText false "d" (Text.escapePercents "__doris_operand__ DAY") := by
  refine ⟨_, rfl, ?_, by decide +kernel⟩
  have hoperand : ((Statement.expression (.text "d" .untyped)).compile [] {}).result =
      .ok ⟨"d", []⟩ := rfl
  have hsql : Text.replace placeholder "d"
      (Text.escapePercents (intervalRule false (.text "__doris_operand__ DAY"))) =
        "DATE_ADD(d, INTERVAL d DAY)" := by decide +kernel
  rw [compile_dateInterval hoperand, hsql]
  simp

end Statement

end SqlDialect
