import SqlDialect.Connection.Session

/-!
# Transactions are closed

What a session asks of an engine is watched by a monitor. It stops at a request that is out of
place, such as a statement outside a connection or a second transaction within one, and it keeps
how each transaction ended: to leave one after a failure rolls it back, and to leave it otherwise
commits it.

An engine reacts to the statement of an operation as it likes, also by what it was asked before: it
refuses the statement, or it breaks off while the rows are fetched, or it answers. One operation
takes the monitor from idle to idle (`run_perform`), hence so does a whole session (`run_asked`).

Main statement: `sessions_close`.
-/

namespace SqlDialect.Connection

/-! ## The monitor -/

/-- What is asked for: a connection alone, or a connection with a transaction. -/
inductive Scope where
  | connection
  | transaction
  deriving DecidableEq, Repr

/-- Where requests stand. -/
inductive Phase where
  | idle
  | asked (scope : Scope)
  | inside (scope : Scope)
  deriving DecidableEq, Repr

/-- How a transaction ends. -/
inductive Ending where
  | committed
  | rolledBack (failure : Failure)

/-- A transaction that is left without a failure is committed. -/
def Ending.of : Option Failure → Ending
  | none => .committed
  | some e => .rolledBack e

/-- The state of the monitor: where requests stand, and how the transactions up to here ended. -/
structure Monitor where
  phase : Phase := .idle
  ended : List Ending := []

namespace Monitor

/-- Takes note of a request, unless it is out of place. -/
def step : Monitor → Event → Option Monitor
  | ⟨.idle, ended⟩, .connect => some ⟨.asked .connection, ended⟩
  | ⟨.idle, ended⟩, .begin => some ⟨.asked .transaction, ended⟩
  | ⟨.idle, ended⟩, .dispose => some ⟨.idle, ended⟩
  | ⟨.asked scope, ended⟩, .enter => some ⟨.inside scope, ended⟩
  | ⟨.inside scope, ended⟩, .withoutParameters => some ⟨.inside scope, ended⟩
  | ⟨.inside scope, ended⟩, .execute _ _ => some ⟨.inside scope, ended⟩
  | ⟨.inside .connection, ended⟩, .exit _ => some ⟨.idle, ended⟩
  | ⟨.inside .transaction, ended⟩, .exit failure => some ⟨.idle, ended ++ [.of failure]⟩
  | _, _ => none

/-- Takes note of requests one after another. -/
def run (m : Monitor) (events : List Event) : Option Monitor :=
  events.foldlM step m

theorem run_append (m : Monitor) (first second : List Event) :
    m.run (first ++ second) = (m.run first).bind fun next => next.run second :=
  List.foldlM_append

end Monitor

/-! ## What is sent -/

/-- A statement as it goes out: with parameters or without, and perhaps as it is written, percent
signs included. -/
structure Sent where
  sql : Value
  parameters : Option (List Value)
  asWritten : Bool

/-- The statements among requests; the flag says whether the next one is to go out as written. -/
def sentAfter : Bool → List Event → List Sent
  | _, [] => []
  | _, .withoutParameters :: rest => sentAfter true rest
  | asWritten, .execute sql parameters :: rest =>
      ⟨sql, parameters, asWritten⟩ :: sentAfter false rest
  | asWritten, _ :: rest => sentAfter asWritten rest

/-- The statements that an operation sends. -/
def Transcript.sent (t : Transcript) : List Sent :=
  sentAfter false t.events

/-! ## Engines -/

/-- What an engine does with the statement of an operation. -/
inductive Reaction where
  /-- The statement fails. -/
  | refuses (message : String)
  /-- The statement is carried out, and fetching its rows fails. -/
  | breaksOff (message : String)
  /-- The statement is carried out, and its rows are there. -/
  | accepts (reply : Reply)

/-- An operation sees of a reaction a reply or a failure, whenever the latter came. -/
def Reaction.answer : Reaction → Except String Reply
  | .refuses message => .error message
  | .breaksOff message => .error message
  | .accepts reply => .ok reply

/-- An engine: how it reacts to the statement of an operation, after all that it was asked. -/
abbrev Engine := List Event → Session.Step → Reaction

namespace Session

variable (engine : Engine)

/-- The operations, each with the answer that it will meet after the requests `asked`. -/
def script : List Event → List Step → List (Step × Except String Reply)
  | _, [] => []
  | asked, step :: rest =>
      (step, (engine asked step).answer) ::
        script (asked ++ (perform step (engine asked step).answer).events) rest

/-- A session over an engine. -/
def run (steps : List Step) : List Transcript :=
  performAll (script engine [] steps)

/-- All that a session asks. -/
def asked (steps : List Step) : List Event :=
  (run engine steps).flatMap Transcript.events

/-- How the engine reacts to `step` when it comes after `before`. -/
def reactionTo (before : List Step) (step : Step) : Reaction :=
  engine (asked engine before) step

/-- How transactions end in an operation with a result: one in a query, none elsewhere. -/
def Step.endings (result : Except Failure Value) : Step → List Ending
  | .query _ _ => [.of (failure? result)]
  | .testConnection | .release => []

/-- How transactions end in operations with results. -/
def endings (steps : List Step) (transcripts : List Transcript) : List Ending :=
  (steps.zip transcripts).flatMap fun (step, t) => step.endings t.result

/-! ## One operation after another -/

variable {engine}

theorem performAll_script_cons (events : List Event) (step : Step) (rest : List Step) :
    performAll (script engine events (step :: rest)) =
      perform step (engine events step).answer ::
        performAll (script engine
          (events ++ (perform step (engine events step).answer).events) rest) := rfl

theorem endings_cons (step : Step) (rest : List Step) (t : Transcript) (after : List Transcript) :
    endings (step :: rest) (t :: after) = step.endings t.result ++ endings rest after := rfl

/-- What comes after other operations is answered after all that these ask. -/
theorem script_append (events : List Event) (before after : List Step) :
    script engine events (before ++ after) =
      script engine events before ++
        script engine
          (events ++ (performAll (script engine events before)).flatMap Transcript.events)
          after := by
  induction before generalizing events with
  | nil => simp [script, performAll]
  | cons step rest ih => simp [script, performAll, ih, List.append_assoc]

theorem length_script (events : List Event) (steps : List Step) :
    (script engine events steps).length = steps.length := by
  induction steps generalizing events with
  | nil => rfl
  | cons step rest ih => simp [script, ih]

/-- An operation that comes after others depends on them only in how the engine reacts to it. -/
theorem run_append_cons (before after : List Step) (step : Step) :
    ∃ rest, run engine (before ++ step :: after) =
      run engine before ++ perform step (reactionTo engine before step).answer :: rest := by
  unfold run
  rw [script_append, performAll, List.map_append]
  exact ⟨_, rfl⟩

theorem length_run (steps : List Step) : (run engine steps).length = steps.length := by
  rw [run, performAll, List.length_map, length_script]

/-- **What an operation depends on.** Of what came before, only the reaction of the engine to it. -/
theorem getElem?_run (before : List Step) (step : Step) (after : List Step) :
    (run engine (before ++ step :: after))[before.length]? =
      some (perform step (reactionTo engine before step).answer) := by
  obtain ⟨rest, h⟩ := @run_append_cons engine before after step
  rw [h, ← @length_run engine before, List.getElem?_append_right (Nat.le_refl _), Nat.sub_self]
  rfl

/-! ## The monitor over a session -/

/-- What a query asks within its transaction leaves the monitor there. -/
theorem run_queryBody (sql values : Value) (answer : Except String Reply) (scope : Scope)
    (ended : List Ending) :
    Monitor.run ⟨.inside scope, ended⟩ (queryBody sql values answer).events =
      some ⟨.inside scope, ended⟩ := by
  unfold queryBody
  split
  · split <;> rfl
  · rfl

/-- One operation finds the monitor idle and leaves it so. -/
theorem run_perform (step : Step) (answer : Except String Reply) (ended : List Ending) :
    Monitor.run ⟨.idle, ended⟩ (perform step answer).events =
      some ⟨.idle, ended ++ step.endings (perform step answer).result⟩ := by
  cases step with
  | query sql values =>
    show Monitor.run ⟨.inside .transaction, ended⟩ ((queryBody sql values answer).events ++
      [.exit (failure? (queryBody sql values answer).result)]) = _
    rw [Monitor.run_append, run_queryBody]
    rfl
  | testConnection =>
    show some _ = some _
    rw [Step.endings, List.append_nil]
  | release =>
    show some _ = some _
    rw [Step.endings, List.append_nil]

/-- No request of a session is out of place, and at the end nothing is open. -/
theorem run_script (events : List Event) (steps : List Step) (ended : List Ending) :
    Monitor.run ⟨.idle, ended⟩
        ((performAll (script engine events steps)).flatMap Transcript.events) =
      some ⟨.idle, ended ++ endings steps (performAll (script engine events steps))⟩ := by
  -- What was asked before matters to the engine alone, so the hypothesis is for all such `events`.
  induction steps generalizing events ended with
  | nil =>
    show some _ = some _
    rw [endings, List.zip_nil_left, List.flatMap_nil, List.append_nil]
  | cons step rest ih =>
    rw [performAll_script_cons, List.flatMap_cons, Monitor.run_append, run_perform,
      Option.bind_some, ih, endings_cons, List.append_assoc]

theorem run_asked (steps : List Step) :
    Monitor.run {} (asked engine steps) = some ⟨.idle, endings steps (run engine steps)⟩ :=
  run_script [] steps []

/-! ## What a query does -/

/-- A result follows the reaction of the engine, once a statement is sent. -/
structure Follows (reaction : Reaction) (t : Transcript) : Prop where
  /-- A failure is passed on as it is, whenever it came. -/
  failure : t.sent ≠ [] → ∀ message,
    reaction = .refuses message ∨ reaction = .breaksOff message →
      t.result = .error (.refused message)
  rows : t.sent ≠ [] → ∀ reply, reaction = .accepts reply → t.result = .ok (rowsValue reply)
  /-- A list without rows stands for a statement without rows, and for nothing else. -/
  is_empty_iff : t.result = .ok (.list []) ↔
    t.sent ≠ [] ∧ ∃ reply, reaction = .accepts reply ∧ (reply.rows = none ∨ reply.rows = some [])

/-- What a query does, given how the engine reacts to its statement. -/
structure IsQuery (sql values : Value) (reaction : Reaction) (t : Transcript) : Prop where
  /-- There is one transaction, closed at the end, and committed exactly if there is no failure. -/
  closes : Monitor.run {} t.events = some ⟨.idle, [.of (failure? t.result)]⟩
  /-- Without values the statement goes out as written. -/
  sends_as_written : values.isTrue = false → t.sent = [⟨sql, none, true⟩]
  /-- With values it goes out with their elements in order. -/
  sends_elements : values.isTrue = true → ∀ elements, values.elements? = some elements →
    t.sent = [⟨sql, some elements, false⟩]
  /-- With a value that has no elements nothing goes out. -/
  sends_nothing : values.isTrue = true → values.elements? = none →
    t.sent = [] ∧ t.result = .error .wrongType
  follows : Follows reaction t

theorem rowsValue_eq_nil_iff (reply : Reply) :
    rowsValue reply = .list [] ↔ reply.rows = none ∨ reply.rows = some [] := by
  cases h : reply.rows with
  | none => simp [rowsValue, h]
  | some rows => simp [rowsValue, h]

theorem Follows.of_sent {reaction : Reaction} {t : Transcript} {statement : Sent}
    (hsent : t.sent = [statement]) (hresult : t.result = answerValue rowsValue reaction.answer) :
    Follows reaction t := by
  refine ⟨?_, ?_, ?_⟩
  · intro _ message h
    rw [hresult]
    rcases h with rfl | rfl <;> rfl
  · intro _ reply h
    rw [hresult, h]
    rfl
  · rw [hresult, hsent]
    cases reaction with
    | refuses message => simp [Reaction.answer, answerValue]
    | breaksOff message => simp [Reaction.answer, answerValue]
    | accepts reply => simp [Reaction.answer, answerValue, rowsValue_eq_nil_iff]

theorem Follows.of_nothing_sent {reaction : Reaction} {t : Transcript} {e : Failure}
    (hsent : t.sent = []) (hresult : t.result = .error e) : Follows reaction t :=
  ⟨fun h => absurd hsent h, fun h => absurd hsent h, by simp [hsent, hresult]⟩

theorem queryBody_of_false {values : Value} (h : values.isTrue = false) (sql : Value)
    (answer : Except String Reply) :
    queryBody sql values answer =
      ⟨[.withoutParameters, .execute sql none], answerValue rowsValue answer⟩ := by
  simp [queryBody, h]

theorem queryBody_of_elements {values : Value} {elements : List Value}
    (h : values.isTrue = true) (helements : values.elements? = some elements) (sql : Value)
    (answer : Except String Reply) :
    queryBody sql values answer =
      ⟨[.execute sql (some elements)], answerValue rowsValue answer⟩ := by
  simp [queryBody, h, helements]

theorem queryBody_of_no_elements {values : Value} (h : values.isTrue = true)
    (helements : values.elements? = none) (sql : Value) (answer : Except String Reply) :
    queryBody sql values answer = ⟨[], .error .wrongType⟩ := by
  simp [queryBody, h, helements]

theorem isQuery_query (sql values : Value) (reaction : Reaction) :
    IsQuery sql values reaction (query sql values reaction.answer) := by
  have hcloses : Monitor.run {} (query sql values reaction.answer).events =
      some ⟨.idle, [.of (failure? (query sql values reaction.answer).result)]⟩ :=
    run_perform (.query sql values) reaction.answer []
  have hquery {body : Transcript} (h : queryBody sql values reaction.answer = body) :
      query sql values reaction.answer = enclosed .begin body := congrArg (enclosed .begin) h
  cases htrue : values.isTrue with
  | false =>
    have hq := hquery (queryBody_of_false htrue sql _)
    have hsent : (query sql values reaction.answer).sent = [⟨sql, none, true⟩] :=
      congrArg Transcript.sent hq
    refine ⟨hcloses, fun _ => hsent, ?_, ?_, .of_sent hsent (congrArg Transcript.result hq)⟩
    · simp [htrue]
    · simp [htrue]
  | true =>
    cases helements : values.elements? with
    | some elements =>
      have hq := hquery (queryBody_of_elements htrue helements sql _)
      have hsent : (query sql values reaction.answer).sent = [⟨sql, some elements, false⟩] :=
        congrArg Transcript.sent hq
      refine ⟨hcloses, ?_, ?_, ?_, .of_sent hsent (congrArg Transcript.result hq)⟩
      · simp [htrue]
      · intro _ others hothers
        rw [hsent, Option.some_inj.mp (helements.symm.trans hothers)]
      · simp [helements]
    | none =>
      have hq := hquery (queryBody_of_no_elements htrue helements sql _)
      have hsent : (query sql values reaction.answer).sent = [] := congrArg Transcript.sent hq
      have hresult : (query sql values reaction.answer).result = .error .wrongType :=
        congrArg Transcript.result hq
      refine ⟨hcloses, ?_, ?_, fun _ _ => ⟨hsent, hresult⟩, .of_nothing_sent hsent hresult⟩
      · simp [htrue]
      · simp [helements]

/-- **Sessions close what they open.** Whatever an engine does, all requests of a session are in
place and nothing is left open; an operation depends on those before it only through the engine's
reaction to it; and each query does what `IsQuery` says. -/
theorem sessions_close (engine : Engine) :
    (∀ steps, Monitor.run {} (asked engine steps) =
      some ⟨.idle, endings steps (run engine steps)⟩) ∧
    (∀ before step after, (run engine (before ++ step :: after))[before.length]? =
      some (perform step (reactionTo engine before step).answer)) ∧
    ∀ before sql values after, ∃ t,
      (run engine (before ++ .query sql values :: after))[before.length]? = some t ∧
      IsQuery sql values (reactionTo engine before (.query sql values)) t := by
  refine ⟨run_asked, getElem?_run, ?_⟩
  intro before sql values after
  exact ⟨_, getElem?_run before _ after, isQuery_query sql values _⟩

end Session

end SqlDialect.Connection
