import SqlDialect.Failure
import SqlDialect.Keyed

/-!
# Templates

A template is text with places to fill in: outputs, which are replaced by the value of a term, and
choices between two templates by whether a term is true. `Template.render` fills it in from left to
right. What is filled in is written once and never read again; a parameter that is needed and not
given is a failure, one in a branch not taken is not needed.

Main statement: `eval_name`, by which a name is undefined exactly if no parameter is called that.
-/

namespace SqlDialect

/-- A term of a template. The value of `and` and `or` is that of the operand that decides. -/
inductive Template.Term where
  | name (n : String)
  | literal (v : Value)
  | not (t : Template.Term)
  | and (left right : Template.Term)
  | or (left right : Template.Term)
  deriving Inhabited

/-- A template: what it starts with and the rest of it. -/
inductive Template where
  | done
  | text (s : String) (rest : Template)
  | output (t : Template.Term) (rest : Template)
  | choice (test : Template.Term) (yes no rest : Template)
  deriving Inhabited

namespace Template

/-- The parameters a template is filled in with. -/
abbrev Parameters := List (String × Value)

/-- The value of a term. The right operand of `and` and `or` is only looked at if the left one does
not decide. -/
def Term.eval (params : Parameters) : Term → Except Failure Value
  | .name n =>
    match Entries.get? n params with
    | some v => .ok v
    | none => .error (.undefinedParameter n)
  | .literal v => .ok v
  | .not t =>
    match t.eval params with
    | .ok v => .ok (.bool (!v.isTrue))
    | .error e => .error e
  | .and left right =>
    match left.eval params with
    | .ok v => if v.isTrue then right.eval params else .ok v
    | .error e => .error e
  | .or left right =>
    match left.eval params with
    | .ok v => if v.isTrue then .ok v else right.eval params
    | .error e => .error e

/-- Two texts, the first of which is made first. -/
def follow (first second : Except Failure String) : Except Failure String :=
  match first with
  | .error e => .error e
  | .ok s =>
    match second with
    | .error e => .error e
    | .ok t => .ok (s ++ t)

/-- Fills a template in. -/
def render (params : Parameters) : Template → Except Failure String
  | .done => .ok ""
  | .text s rest => follow (.ok s) (render params rest)
  | .output t rest => follow ((t.eval params).map Value.shown) (render params rest)
  | .choice test yes no rest =>
    match test.eval params with
    | .error e => .error e
    | .ok v =>
      follow (if v.isTrue then render params yes else render params no) (render params rest)

/-- A template followed by another one. -/
def append : Template → Template → Template
  | .done, u => u
  | .text s rest, u => .text s (append rest u)
  | .output t rest, u => .output t (append rest u)
  | .choice test yes no rest, u => .choice test yes no (append rest u)

theorem eval_name (params : Parameters) (n : String) :
    (Term.name n).eval params = .error (.undefinedParameter n) ↔ Entries.get? n params = none := by
  simp only [Term.eval]
  cases Entries.get? n params <;> simp

end Template

end SqlDialect
