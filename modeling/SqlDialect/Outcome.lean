import SqlDialect.Failure

/-!
# Outcomes

An operation ends with a result or a failure, and on its way it may note things down. `Outcome`
keeps both: the result, and the records in the order in which they were noted. A failure ends the
operation, but what was noted before it stays.

Main statements: the laws of `bind` for a success and for a failure, and those of `mapResult`, which
changes the result and leaves the records alone.
-/

namespace SqlDialect

/-- The part of the library that notes something down. -/
inductive Logger where
  | granularity | mysql | doris | templates | dialect | driver
  deriving DecidableEq, Repr

/-- How important a record is. -/
inductive Level where
  | debug | warning
  deriving DecidableEq, Repr

/-- Something that was noted down. -/
structure LogRecord where
  logger : Logger
  level : Level
  message : String
  deriving DecidableEq, Repr

namespace Logger

/-- The name under which a part of the library notes things down. -/
def name : Logger → String
  | .granularity => "doris.query.granularity"
  | .mysql => "doris.query.mysql"
  | .doris => "doris.query.doris"
  | .templates => "doris.query.templates"
  | .dialect => "doris.dialect"
  | .driver => "doris.driver"

end Logger

namespace Level

/-- The name of a level. -/
def name : Level → String
  | .debug => "DEBUG"
  | .warning => "WARNING"

end Level

/-- The end of an operation with what it noted down. -/
structure Outcome (α : Type) where
  result : Except Failure α
  log : List LogRecord

variable {α β γ : Type}

/-- Two changes of the result of a success are one. -/
theorem except_map_map (g : β → γ) (f : α → β) (r : Except Failure α) :
    (r.map f).map g = r.map fun a => g (f a) := by
  cases r <;> rfl

/-- Where two operations in sequence succeed, the first has succeeded, and the second with its
result. -/
theorem except_bind_eq_ok_iff {r : Except Failure α} {f : α → Except Failure β} {b : β} :
    r.bind f = .ok b ↔ ∃ a, r = .ok a ∧ f a = .ok b := by
  cases r with
  | error e => exact ⟨fun h => (nomatch h), fun ⟨_, h, _⟩ => (nomatch h)⟩
  | ok a => exact ⟨fun h => ⟨a, rfl, h⟩, fun ⟨_, h, hf⟩ => Except.ok.inj h ▸ hf⟩

namespace Outcome

/-- Success without a record. -/
def ok (a : α) : Outcome α := ⟨.ok a, []⟩

/-- Failure without a record. -/
def fail (e : Failure) : Outcome α := ⟨.error e, []⟩

/-- An operation that notes nothing down. -/
def silent (r : Except Failure α) : Outcome α := ⟨r, []⟩

/-- Notes a record down. -/
def note (logger : Logger) (level : Level) (message : String) : Outcome Unit :=
  ⟨.ok (), [⟨logger, level, message⟩]⟩

/-- One operation after another, the second using the result of the first. -/
def bind (x : Outcome α) (f : α → Outcome β) : Outcome β :=
  match x.result with
  | .ok a => ⟨(f a).result, x.log ++ (f a).log⟩
  | .error e => ⟨.error e, x.log⟩

instance : Monad Outcome where
  pure := ok
  bind := bind

/-- Changes the result of a success. -/
def mapResult (f : α → β) (x : Outcome α) : Outcome β :=
  ⟨x.result.map f, x.log⟩

@[simp] theorem bind_ok (a : α) (f : α → Outcome β) : (ok a).bind f = f a := rfl

@[simp] theorem bind_fail (e : Failure) (f : α → Outcome β) :
    (fail e : Outcome α).bind f = fail e := rfl

@[simp] theorem mapResult_ok (f : α → β) (a : α) : (ok a).mapResult f = ok (f a) := rfl

@[simp] theorem mapResult_fail (f : α → β) (e : Failure) :
    (fail e : Outcome α).mapResult f = fail e := rfl

@[simp] theorem mapResult_silent (f : α → β) (r : Except Failure α) :
    (silent r).mapResult f = silent (r.map f) := rfl

theorem mapResult_result (f : α → β) (x : Outcome α) :
    (x.mapResult f).result = x.result.map f := rfl

theorem mapResult_mapResult (g : β → γ) (f : α → β) (x : Outcome α) :
    (x.mapResult f).mapResult g = x.mapResult fun a => g (f a) := by
  obtain ⟨r, log⟩ := x
  cases r <;> rfl

theorem bind_mapResult (x : Outcome α) (f : α → β) (k : β → Outcome γ) :
    (x.mapResult f).bind k = x.bind fun a => k (f a) := by
  obtain ⟨r, log⟩ := x
  cases r <;> rfl

theorem mapResult_bind (x : Outcome α) (k : α → Outcome β) (g : β → γ) :
    (x.bind k).mapResult g = x.bind fun a => (k a).mapResult g := by
  obtain ⟨r, log⟩ := x
  cases r <;> rfl

theorem bind_result (x : Outcome α) (f : α → Outcome β) :
    (x.bind f).result = x.result.bind fun a => (f a).result := by
  obtain ⟨r, log⟩ := x
  cases r <;> rfl

theorem result_bind {x : Outcome α} {a : α} (h : x.result = .ok a) (f : α → Outcome β) :
    (x.bind f).result = (f a).result := by
  simp [bind, h]

end Outcome

end SqlDialect
