import SqlDialect.Proofs.Query.Ending

/-!
# Records mirror results

What a sequence of calls notes down can be told from the calls and their results. In the order of
the calls there is one record for each success of an operation that notes its successes down, one
warning for each name of a table that is refused, with the name and its length, and nothing else:
no other failure leaves a record.

`recordsOf` says it for one call, by how calls end, and a sequence of calls notes down what its calls
do, one after another.

Main statement: `records_mirror_results`.
-/

namespace SqlDialect.Query

variable {zones : Zone.Lookup}

/-- Whether an operation notes its successes down. -/
def Call.isNoted : Call → Bool
  | .timeGroupedColumn _ _ | .convertTz _ | .renderTemplate _ _ _ => true
  | _ => false

/-- The records of a call by its result. -/
def recordsOf (q : Query zones) (now : Instant) (call : Call) : Except Failure Value → List LogRecord
  | .ok v => (q.successRecord? now call v).toList
  | .error (.tableNameTooLong name) => [refusalRecord name.shown]
  | .error _ => []

/-- The name that was refused, if a result is the refusal of one. -/
def refusedName? : Except Failure Value → Option String
  | .error (.tableNameTooLong name) => some name.shown
  | _ => none

/-- All that a sequence of calls notes down, in order. -/
def runLog (q : Query zones) (calls : List (Instant × Call)) : List LogRecord :=
  (q.performAll calls).flatMap Outcome.log

variable {q : Query zones} {now : Instant} {call : Call} {o : Outcome Value}

/-! ## One call -/

theorem Ends.log_eq (h : Ends q now call o) : o.log = q.recordsOf now call o.result := by
  cases h with
  | done v => rfl
  | refused name h => rfl
  | failed e h =>
    cases e with
    | tableNameTooLong name => cases h
    | _ => rfl

/-- Successes are noted down in one record below the level of a warning, if at all. -/
theorem successRecord?_cases (q : Query zones) (now : Instant) (call : Call) (v : Value) :
    call.isNoted = false ∧ q.successRecord? now call v = none ∨
      call.isNoted = true ∧
        ∃ record, q.successRecord? now call v = some record ∧ record.level = .debug := by
  cases call with
  | timeGroupedColumn granularity dimension => exact Or.inr ⟨rfl, _, rfl, rfl⟩
  | convertTz field => exact Or.inr ⟨rfl, _, rfl, rfl⟩
  | renderTemplate category name params => exact Or.inr ⟨rfl, _, rfl, rfl⟩
  | _ => exact Or.inl ⟨rfl, rfl⟩

/-- The warnings of a call: one if a name was refused. -/
theorem Ends.warnings (h : Ends q now call o) :
    o.log.filter (fun record => record.level = .warning) =
      (refusedName? o.result).toList.map refusalRecord := by
  cases h with
  | done v =>
    rcases successRecord?_cases q now call v with ⟨-, hnone⟩ | ⟨-, record, hsome, hlevel⟩
    · simp [hnone, refusedName?]
    · simp [hsome, hlevel, refusedName?]
  | refused name h => rfl
  | failed e h =>
    cases e with
    | tableNameTooLong name => cases h
    | _ => rfl

/-- The other records of a call: one if it is a success that is noted down. -/
theorem Ends.length_debug (h : Ends q now call o) :
    (o.log.filter fun record => record.level = .debug).length =
      if call.isNoted && o.result.isOk then 1 else 0 := by
  cases h with
  | done v =>
    rcases successRecord?_cases q now call v with ⟨hnoted, hnone⟩ | ⟨hnoted, record, hsome, hlevel⟩
    · simp [hnone, hnoted]
    · simp [hsome, hlevel, hnoted, Except.isOk, Except.toBool]
  | refused name h => simp [refusalRecord, Except.isOk, Except.toBool]
  | failed e h => simp [Outcome.fail, Except.isOk, Except.toBool]

/-! ## A sequence of calls -/

theorem performAll_cons (q : Query zones) (now : Instant) (call : Call) (rest : List (Instant × Call)) :
    q.performAll ((now, call) :: rest) = q.perform now call :: q.performAll rest := rfl

theorem runLog_cons (q : Query zones) (now : Instant) (call : Call) (rest : List (Instant × Call)) :
    q.runLog ((now, call) :: rest) = (q.perform now call).log ++ q.runLog rest := rfl

/-- **Records mirror results.** Whatever the query and the calls are, the records are, in the order
of the calls, those that the results call for. The warnings among them are one for each name that was
refused, in order, and the others are as many as the successes of operations that note them down. -/
theorem records_mirror_results (q : Query zones) (calls : List (Instant × Call)) :
    q.runLog calls =
        calls.flatMap (fun c => q.recordsOf c.1 c.2 (q.perform c.1 c.2).result) ∧
      (q.runLog calls).filter (fun record => record.level = .warning) =
        ((q.performAll calls).filterMap fun o => refusedName? o.result).map refusalRecord ∧
      ((q.runLog calls).filter fun record => record.level = .debug).length =
        calls.countP fun c => c.2.isNoted && (q.perform c.1 c.2).result.isOk := by
  induction calls with
  | nil => exact ⟨rfl, rfl, rfl⟩
  | cons c rest ih =>
    obtain ⟨now, call⟩ := c
    obtain ⟨hlog, hwarnings, hdebug⟩ := ih
    have hend := q.perform_ends now call
    rw [runLog_cons]
    refine ⟨?_, ?_, ?_⟩
    · rw [List.flatMap_cons, hlog, hend.log_eq]
    · rw [List.filter_append, hwarnings, hend.warnings, performAll_cons, List.filterMap_cons]
      cases refusedName? (q.perform now call).result <;> rfl
    · rw [List.filter_append, List.length_append, hdebug, hend.length_debug, List.countP_cons,
        Nat.add_comm]

end SqlDialect.Query
