import SqlDialect.Text.Blank

/-!
# Reading date expressions

How a database reads the date expressions among the SQL that is written: columns, literals, and
calls of the functions for dates. The text is read once from left to right with a stack. A word, a
comma or a literal is put on the stack, a function is put there when its bracket opens, and when the
bracket closes, all from the function on is replaced by the call.

What lies below on the stack is never looked at, so a piece of SQL is read alike wherever it stands.

Main statement: `read?_call`, by which a call is read from its pieces.
-/

namespace SqlDialect.Database

/-- A unit in which whole spans of time are counted and added. -/
inductive TimeUnit where
  | week | quarter
  deriving DecidableEq, Repr

/-- The word for a unit. -/
def TimeUnit.name : TimeUnit → String
  | .week => "WEEK"
  | .quarter => "QUARTER"

/-- A date expression. -/
inductive Expression where
  | column (name : String)
  | literal (s : String)
  | castDateTime (e : Expression)
  | dateFormat (date pattern : Expression)
  | dateAdd (date count : Expression) (unit : TimeUnit)
  | timestampDiff (unit : TimeUnit) (start stop : Expression)
  deriving DecidableEq, Repr

/-- The functions that can be called. -/
inductive Callable where
  | cast | dateFormat | dateAdd | timestampDiff
  deriving DecidableEq, Repr

/-- The words that are no columns. -/
inductive Keyword where
  | as | dateTime | interval | unit (u : TimeUnit)
  deriving DecidableEq, Repr

/-- What can be on the stack. -/
inductive Item where
  | expression (e : Expression)
  | keyword (k : Keyword)
  | opening (f : Callable)
  | comma
  deriving DecidableEq, Repr

/-- The function of a name. -/
def Callable.ofName? (name : String) : Option Callable :=
  match name with
  | "CAST" => some .cast
  | "DATE_FORMAT" => some .dateFormat
  | "DATE_ADD" => some .dateAdd
  | "TIMESTAMPDIFF" => some .timestampDiff
  | _ => none

/-- What a word stands for. -/
def Item.ofWord (word : String) : Item :=
  match word with
  | "AS" => .keyword .as
  | "DATETIME" => .keyword .dateTime
  | "INTERVAL" => .keyword .interval
  | "WEEK" => .keyword (.unit .week)
  | "QUARTER" => .keyword (.unit .quarter)
  | _ => .expression (.column word)

/-- Replaces a function and all that follows it by its call. The top of the stack comes first. -/
def close : List Item → Option (List Item)
  | .keyword .dateTime :: .keyword .as :: .expression e :: .opening .cast :: rest =>
    some (.expression (.castDateTime e) :: rest)
  | .expression p :: .comma :: .expression e :: .opening .dateFormat :: rest =>
    some (.expression (.dateFormat e p) :: rest)
  | .keyword (.unit u) :: .expression n :: .keyword .interval :: .comma :: .expression e ::
      .opening .dateAdd :: rest =>
    some (.expression (.dateAdd e n u) :: rest)
  | .expression b :: .comma :: .expression a :: .comma :: .keyword (.unit u) ::
      .opening .timestampDiff :: rest =>
    some (.expression (.timestampDiff u a b) :: rest)
  | _ => none

/-- A word or a literal of which the end has not come yet. -/
inductive Pending where
  | nothing
  | word (s : List Char)
  | literal (s : List Char)
  deriving DecidableEq, Repr

/-- How far a text is read. -/
structure Progress where
  stack : List Item
  pending : Pending
  deriving DecidableEq, Repr

namespace Progress

/-- Nothing is read. -/
def start : Progress := ⟨[], .nothing⟩

/-- Reads a character that is not part of a word or a literal before it. -/
def begin (stack : List Item) (c : Char) : Option Progress :=
  match c with
  | '\'' => some ⟨stack, .literal []⟩
  | ' ' => some ⟨stack, .nothing⟩
  | ',' => some ⟨.comma :: stack, .nothing⟩
  | ')' => (close stack).map (⟨·, .nothing⟩)
  | '(' => none
  | c => some ⟨stack, .word [c]⟩

/-- The characters that end a word. -/
def isStop (c : Char) : Bool :=
  c = '\'' || c = ' ' || c = ',' || c = ')'

/-- Whether a text, if it is not empty, begins with such a character. -/
def beginsWithStop : List Char → Bool
  | [] => true
  | c :: _ => isStop c

/-- Reads a character. -/
def step : Progress → Char → Option Progress
  | ⟨stack, .nothing⟩, c => begin stack c
  | ⟨stack, .word s⟩, c =>
    if c = '(' then
      (Callable.ofName? (String.ofList s)).map fun f => ⟨.opening f :: stack, .nothing⟩
    else if isStop c then begin (Item.ofWord (String.ofList s) :: stack) c
    else some ⟨stack, .word (s ++ [c])⟩
  | ⟨stack, .literal s⟩, c =>
    if c = '\'' then some ⟨.expression (.literal (String.ofList s)) :: stack, .nothing⟩
    else some ⟨stack, .literal (s ++ [c])⟩

/-- Reads a text. -/
def run : Progress → List Char → Option Progress
  | p, [] => some p
  | p, c :: rest => (p.step c).bind (run · rest)

/-- The stack where a text ends. A literal has to be complete then. -/
def stack? : Progress → Option (List Item)
  | ⟨stack, .nothing⟩ => some stack
  | ⟨stack, .word s⟩ => some (Item.ofWord (String.ofList s) :: stack)
  | ⟨_, .literal _⟩ => none

end Progress

/-- Reads a text as one expression. -/
def read? (sql : String) : Option Expression :=
  match (Progress.start.run sql.toList).bind Progress.stack? with
  | some [.expression e] => some e
  | _ => none

namespace Progress

/-! ## What lies below -/

/-- The same progress with more below on the stack. -/
def above (p : Progress) (base : List Item) : Progress :=
  ⟨p.stack ++ base, p.pending⟩

theorem close_append {s t : List Item} (h : close s = some t) (base : List Item) :
    close (s ++ base) = some (t ++ base) := by
  revert h
  fun_cases close s
  case case5 => intro h; cases h
  all_goals
    intro h
    cases h
    rfl

theorem begin_append {stack : List Item} {c : Char} {p : Progress} (h : begin stack c = some p)
    (base : List Item) : begin (stack ++ base) c = some (p.above base) := by
  unfold begin at h ⊢
  split at h
  case h_4 =>
    obtain ⟨t, ht, rfl⟩ := Option.map_eq_some_iff.mp h
    rw [close_append ht base]
    rfl
  case h_5 => cases h
  all_goals
    cases h
    rfl

/-- A character is read alike whatever lies below. -/
theorem step_above {p q : Progress} {c : Char} (h : p.step c = some q) (base : List Item) :
    (p.above base).step c = some (q.above base) := by
  obtain ⟨stack, pending⟩ := p
  cases pending with
  | nothing => exact begin_append h base
  | word s =>
    rw [step] at h
    rw [above, step]
    split at h
    · next hopening =>
      obtain ⟨f, hf, rfl⟩ := Option.map_eq_some_iff.mp h
      rw [if_pos hopening, hf]
      rfl
    · next hopening =>
      rw [if_neg hopening]
      split at h
      · next hstop =>
        rw [if_pos hstop]
        exact begin_append h base
      · next hstop =>
        cases h
        rw [if_neg hstop]
        rfl
  | literal s =>
    rw [step] at h
    rw [above, step]
    split at h
    · next hquote =>
      cases h
      rw [if_pos hquote]
      rfl
    · next hquote =>
      cases h
      rw [if_neg hquote]
      rfl

theorem run_above {p q : Progress} {s : List Char} (h : p.run s = some q) (base : List Item) :
    (p.above base).run s = some (q.above base) := by
  induction s generalizing p with
  | nil =>
    cases h
    rfl
  | cons c s ih =>
    obtain ⟨r, hr, hrest⟩ := Option.bind_eq_some_iff.mp h
    rw [run, step_above hr, Option.bind_some]
    exact ih hrest

theorem run_append (p : Progress) (s t : List Char) :
    p.run (s ++ t) = (p.run s).bind (run · t) := by
  induction s generalizing p with
  | nil => rfl
  | cons c s ih =>
    rw [List.cons_append, run, run]
    cases p.step c with
    | none => rfl
    | some q => exact ih q

/-- A character that ends a word also ends what is complete. -/
theorem step_of_stack? {p : Progress} {stack : List Item} (h : p.stack? = some stack) {c : Char}
    (hc : isStop c) : p.step c = begin stack c := by
  obtain ⟨below, pending⟩ := p
  cases pending with
  | nothing =>
    cases h
    rfl
  | word s =>
    cases h
    have hopening : c ≠ '(' := by
      rintro rfl
      exact absurd hc (by decide)
    rw [step, if_neg hopening, if_pos hc]
  | literal s => cases h

theorem stack?_above {p : Progress} {stack : List Item} (h : p.stack? = some stack)
    (base : List Item) : (p.above base).stack? = some (stack ++ base) := by
  obtain ⟨below, pending⟩ := p
  cases pending with
  | nothing =>
    cases h
    rfl
  | word s =>
    cases h
    rfl
  | literal s => cases h

/-- What follows is read alike whether a word before it has ended or is about to end. -/
theorem run_of_stack? {p : Progress} {stack : List Item} (h : p.stack? = some stack) {c : Char}
    (hc : isStop c) (rest : List Char) :
    p.run (c :: rest) = run ⟨stack, .nothing⟩ (c :: rest) := by
  rw [run, run, step_of_stack? h hc, step]

end Progress

theorem read?_eq_some_iff {sql : String} {e : Expression} :
    read? sql = some e ↔ ∃ p, Progress.start.run sql.toList = some p ∧
      p.stack? = some [.expression e] := by
  rw [read?]
  constructor
  · intro h
    split at h
    · next hstack =>
      cases h
      exact Option.bind_eq_some_iff.mp hstack
    · cases h
  · intro h
    rw [Option.bind_eq_some_iff.mpr h]

open Progress in
/-- **A call is read from its pieces**: what stands before the operand, the operand itself, and what
stands after it up to the bracket that closes the call. -/
theorem read?_call {left sql right : String} {e call : Expression} {below above : List Item}
    {p : Progress} (hleft : start.run left.toList = some ⟨below, .nothing⟩)
    (hsql : read? sql = some e) (hright : start.run right.toList = some p)
    (hstop : beginsWithStop right.toList = true) (habove : p.stack? = some above)
    (hclose : close (above ++ .expression e :: below) = some [.expression call]) :
    read? (left ++ sql ++ right ++ ")") = some call := by
  obtain ⟨q, hq, hqstack⟩ := read?_eq_some_iff.mp hsql
  have hoperand : start.run (left.toList ++ sql.toList) = some (q.above below) := by
    rw [run_append, hleft]
    exact run_above hq below
  have hcomplete : (q.above below).stack? = some (.expression e :: below) :=
    stack?_above hqstack below
  -- What comes after the operand ends it, so the operand is on the stack before that is read.
  have hafter : (q.above below).run (right.toList ++ [')']) =
      (start.above (.expression e :: below)).run (right.toList ++ [')']) := by
    cases hchars : right.toList with
    | nil => exact run_of_stack? hcomplete rfl []
    | cons c rest =>
      rw [hchars] at hstop
      exact run_of_stack? hcomplete hstop (rest ++ [')'])
  have hend : (p.above (.expression e :: below)).step ')' =
      some ⟨[.expression call], .nothing⟩ := by
    rw [step_of_stack? (stack?_above habove _) rfl, begin, hclose]
    rfl
  refine read?_eq_some_iff.mpr ⟨⟨[.expression call], .nothing⟩, ?_, rfl⟩
  rw [String.toList_append, String.toList_append, String.toList_append, List.append_assoc,
    run_append, hoperand, Option.bind_some]
  refine hafter.trans ?_
  rw [run_append, run_above hright, Option.bind_some, run, hend]
  rfl

end SqlDialect.Database
