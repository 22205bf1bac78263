import SqlDialect.Text.Join
import SqlDialect.Text.Replace

/-!
# Quotes and brackets

A reader of SQL goes through a text from the left and keeps two things: the quote it is inside of,
if any, and how many round brackets are open. A quote ends at the next mark of its own kind, and all
that stands inside a quote means nothing. `scan` is this reader. It fails where a bracket is closed
that was never opened, and at a separator outside of all brackets, if there are separators.

A text is `IsClosed` if the reader comes out of it as it came in. What counts as a quote and as a
separator is given by `Marks`, so that the same lemmas serve for finding open quotes, where no
separator is looked for, and for cutting lists, where a comma outside of brackets ends an element.

Main statements: `scan_append`, by which a text can be read part by part; `IsClosed.scan`, by which
a closed text leaves the reader alone in any bracket; `scan_joined`, closed texts with something
harmless between them; and `eq_of_append_eq_append`, by which a closed text ends at the first stop.
-/

namespace SqlDialect.Text

/-- What the reader looks for besides brackets: all the quotes of SQL, or the single quotes and the
commas of a list in SQL. -/
inductive Marks where
  | sql | list
  deriving DecidableEq, Repr

namespace Marks

/-- The quotes that are looked for. -/
def quotes : Marks → List Char
  | .sql => ['\'', '"', '\x60']
  | .list => ['\'']

/-- The separators that are looked for. -/
def separators : Marks → List Char
  | .sql => []
  | .list => [',']

/-- A character that means nothing to the reader outside of quotes. -/
def IsPlain (m : Marks) (c : Char) : Prop :=
  c ∉ m.quotes ∧ c ≠ '(' ∧ c ≠ ')' ∧ c ∉ m.separators

instance (m : Marks) (c : Char) : Decidable (m.IsPlain c) :=
  inferInstanceAs (Decidable (_ ∧ _ ∧ _ ∧ _))

end Marks

/-- Where the reader stands: the quote around it and the number of brackets. -/
structure Position where
  quote : Option Char
  depth : Nat
  deriving DecidableEq, Repr

namespace Position

/-- Outside of all quotes, inside of a number of brackets. -/
def within (depth : Nat) : Position := ⟨none, depth⟩

/-- One character outside of all quotes. -/
def stepOutside (m : Marks) (depth : Nat) (c : Char) : Option Position :=
  if c ∈ m.quotes then some ⟨some c, depth⟩
  else if c = '(' then some (within (depth + 1))
  else if c = ')' then if depth = 0 then none else some (within (depth - 1))
  else if c ∈ m.separators ∧ depth = 0 then none
  else some (within depth)

/-- The reader passes over one character. -/
def step (m : Marks) (p : Position) (c : Char) : Option Position :=
  match p.quote with
  | some q => if c = q then some (within p.depth) else some p
  | none => stepOutside m p.depth c

/-- The same place with more brackets around it. -/
def deepen (k : Nat) (p : Position) : Position := ⟨p.quote, p.depth + k⟩

end Position

open Position (within)

/-- The reader passes over a text. -/
def scan (m : Marks) : Position → List Char → Option Position
  | p, [] => some p
  | p, c :: rest => (p.step m c).bind fun next => scan m next rest

/-- The reader comes out of the text as it came in. -/
def IsClosed (m : Marks) (s : String) : Prop :=
  scan m (within 0) s.toList = some (within 0)

instance (m : Marks) (s : String) : Decidable (IsClosed m s) :=
  inferInstanceAs (Decidable (_ = _))

variable {m : Marks} {p p' : Position}

/-! ## Reading part by part -/

theorem scan_append (s t : List Char) :
    scan m p (s ++ t) = (scan m p s).bind fun next => scan m next t := by
  induction s generalizing p with
  | nil => rfl
  | cons c s ih =>
    rw [List.cons_append, scan, scan, Option.bind_assoc]
    exact Option.bind_congr fun next _ => ih

/-- A part that is read leaves the rest to be read. -/
theorem scan_append_of_eq {s : List Char} (h : scan m p s = some p') (t : List Char) :
    scan m p (s ++ t) = scan m p' t := by
  rw [scan_append, h, Option.bind_some]

/-! ## Characters -/

/-- In a quote everything but the quote itself is passed over. -/
theorem step_quoted {q c : Char} (h : c ≠ q) (d : Nat) :
    Position.step m ⟨some q, d⟩ c = some ⟨some q, d⟩ :=
  if_neg h

theorem step_plain {c : Char} (h : m.IsPlain c) (d : Nat) :
    (within d).step m c = some (within d) := by
  obtain ⟨hquote, hopen, hclose, hseparator⟩ := h
  show Position.stepOutside m d c = _
  rw [Position.stepOutside, if_neg hquote, if_neg hopen, if_neg hclose,
    if_neg fun hs => hseparator hs.1]

/-- Text without its quote is passed over inside of a quote. -/
theorem scan_quoted {q : Char} {s : List Char} (h : q ∉ s) (d : Nat) :
    scan m ⟨some q, d⟩ s = some ⟨some q, d⟩ := by
  induction s with
  | nil => rfl
  | cons c s ih =>
    have hc : c ≠ q := fun e => h (e ▸ List.mem_cons_self)
    rw [scan, step_quoted hc, Option.bind_some, ih fun hs => h (List.mem_cons_of_mem c hs)]

/-- Text without marks is passed over. -/
theorem scan_plain {s : List Char} (h : ∀ c ∈ s, m.IsPlain c) (d : Nat) :
    scan m (within d) s = some (within d) := by
  induction s with
  | nil => rfl
  | cons c s ih =>
    rw [scan, step_plain (h c List.mem_cons_self), Option.bind_some,
      ih fun a ha => h a (List.mem_cons_of_mem c ha)]

theorem isClosed_of_plain {s : String} (h : ∀ c ∈ s.toList, m.IsPlain c) : IsClosed m s :=
  scan_plain h 0

/-! ## Inside of more brackets -/

theorem stepOutside_deepen {c : Char} {d : Nat} (h : Position.stepOutside m d c = some p)
    (k : Nat) : Position.stepOutside m (d + k) c = some (p.deepen k) := by
  rw [Position.stepOutside] at h ⊢
  by_cases hquote : c ∈ m.quotes
  · rw [if_pos hquote] at h ⊢
    cases h
    rfl
  rw [if_neg hquote] at h ⊢
  by_cases hopen : c = '('
  · rw [if_pos hopen] at h ⊢
    cases h
    rw [Nat.add_right_comm]
    rfl
  rw [if_neg hopen] at h ⊢
  by_cases hclose : c = ')'
  · rw [if_pos hclose] at h ⊢
    have hd : d ≠ 0 := fun hd => by simp [hd] at h
    rw [if_neg hd] at h
    cases h
    rw [if_neg (by omega), Nat.sub_add_comm (by omega)]
    rfl
  rw [if_neg hclose] at h ⊢
  by_cases hseparator : c ∈ m.separators ∧ d = 0
  · rw [if_pos hseparator] at h
    cases h
  rw [if_neg hseparator] at h
  cases h
  -- A separator that was passed over had a bracket around it.
  rw [if_neg fun hs => hseparator ⟨hs.1, Nat.eq_zero_of_add_eq_zero_right hs.2⟩]
  rfl

/-- A step goes the same way with more brackets around it. -/
theorem step_deepen {c : Char} (h : p.step m c = some p') (k : Nat) :
    (p.deepen k).step m c = some (p'.deepen k) := by
  obtain ⟨quote, d⟩ := p
  cases quote with
  | none => exact stepOutside_deepen h k
  | some q =>
    by_cases hc : c = q
    · obtain rfl : within d = p' := by simpa [Position.step, hc] using h
      simp [Position.step, Position.deepen, within, hc]
    · rw [step_quoted hc] at h
      cases h
      exact step_quoted hc (d + k)

/-- A text is read the same way with more brackets around it. -/
theorem scan_deepen {s : List Char} (h : scan m p s = some p') (k : Nat) :
    scan m (p.deepen k) s = some (p'.deepen k) := by
  induction s generalizing p with
  | nil =>
    cases h
    rfl
  | cons c s ih =>
    obtain ⟨next, hnext, hrest⟩ := Option.bind_eq_some_iff.mp h
    rw [scan, step_deepen hnext, Option.bind_some, ih hrest]

/-! ## Closed texts -/

/-- **A closed text leaves the reader alone**, however many brackets are open. -/
theorem IsClosed.scan {s : String} (h : IsClosed m s) (d : Nat) :
    scan m (within d) s.toList = some (within d) := by
  have := scan_deepen h d
  simpa [Position.deepen, within] using this

/-- Closed texts with a text between them that the reader passes over. -/
theorem scan_joined {separator : String} {d : Nat}
    (hseparator : Text.scan m (within d) separator.toList = some (within d)) {parts : List String}
    (h : ∀ s ∈ parts, IsClosed m s) :
    Text.scan m (within d) (joined separator parts).toList = some (within d) := by
  induction parts with
  | nil => rfl
  | cons s parts ih =>
    have hs := (h s List.mem_cons_self).scan d
    cases parts with
    | nil => exact hs
    | cons t rest =>
      rw [joined_cons_cons, String.toList_append, String.toList_append, List.append_assoc,
        scan_append_of_eq hs, scan_append_of_eq hseparator]
      exact ih fun a ha => h a (List.mem_cons_of_mem s ha)

/-! ## The end of an element -/

/-- Where the reader cannot go on outside of all brackets: at a separator, or at the end. -/
def IsStop (m : Marks) (rest : List Char) : Prop :=
  ∀ c, rest.head? = some c → (within 0).step m c = none

/-- A closed text that goes on at a stop does not go on at all. -/
theorem eq_nil_of_isStop {s : String} {more rest : List Char} (hs : IsClosed m s)
    (hread : (scan m (within 0) (s.toList ++ more)).isSome) (hstop : IsStop m (more ++ rest)) :
    more = [] := by
  cases more with
  | nil => rfl
  | cons c more =>
    rw [scan_append_of_eq hs, scan, hstop c rfl] at hread
    cases hread

/-- **A closed text ends at the first stop.** Two texts that start with closed texts, each up to a
stop, start with the same closed text. -/
theorem eq_of_append_eq_append {s t : String} {rest rest' : List Char} (hs : IsClosed m s)
    (ht : IsClosed m t) (hrest : IsStop m rest) (hrest' : IsStop m rest')
    (h : s.toList ++ rest = t.toList ++ rest') : s = t ∧ rest = rest' := by
  -- The longer of the two would go on where the reader of the shorter cannot.
  rcases List.append_eq_append_iff.mp h with ⟨more, hmore, hbeyond⟩ | ⟨more, hmore, hbeyond⟩
  · have hread : (scan m (within 0) (s.toList ++ more)).isSome := by
      rw [← hmore, ht]
      rfl
    obtain rfl := eq_nil_of_isStop hs hread (hbeyond ▸ hrest)
    exact ⟨String.toList_inj.mp (by simpa using hmore.symm), by simpa using hbeyond⟩
  · have hread : (scan m (within 0) (t.toList ++ more)).isSome := by
      rw [← hmore, hs]
      rfl
    obtain rfl := eq_nil_of_isStop ht hread (hbeyond ▸ hrest')
    exact ⟨String.toList_inj.mp (by simpa using hmore), by simpa using hbeyond.symm⟩

/-- What follows the first of several texts with a separator between each two. -/
def joinedTail (separator : String) (rest : List String) : List Char :=
  if rest = [] then [] else separator.toList ++ (joined separator rest).toList

theorem toList_joined_cons (separator s : String) (rest : List String) :
    (joined separator (s :: rest)).toList = s.toList ++ joinedTail separator rest := by
  cases rest with
  | nil => simp [joinedTail]
  | cons t rest => simp [joinedTail]

/-- What follows the first text tells what the others make together. -/
theorem joined_eq_of_joinedTail_eq {separator : String} (hne : separator ≠ "")
    {rest rest' : List String} (h : joinedTail separator rest = joinedTail separator rest') :
    joined separator rest = joined separator rest' := by
  have hlist (more : List Char) : separator.toList ++ more ≠ [] := fun e =>
    hne (String.toList_eq_nil_iff.mp (List.append_eq_nil_iff.mp e).1)
  by_cases hrest : rest = []
  · by_cases hrest' : rest' = []
    · rw [hrest, hrest']
    · rw [joinedTail, joinedTail, if_pos hrest, if_neg hrest'] at h
      exact absurd h.symm (hlist _)
  · by_cases hrest' : rest' = []
    · rw [joinedTail, joinedTail, if_neg hrest, if_pos hrest'] at h
      exact absurd h (hlist _)
    · rw [joinedTail, joinedTail, if_neg hrest, if_neg hrest'] at h
      exact String.toList_inj.mp (List.append_cancel_left h)

/-- **A list can be read back.** Closed texts with separators between them can be told apart if none
of them is empty and the reader cannot go on at a separator. -/
theorem joined_injective {separator : String} (hne : separator ≠ "")
    (hseparator : ∀ more, IsStop m (separator.toList ++ more)) {parts parts' : List String}
    (h : ∀ s ∈ parts, IsClosed m s ∧ s ≠ "") (h' : ∀ s ∈ parts', IsClosed m s ∧ s ≠ "")
    (heq : joined separator parts = joined separator parts') : parts = parts' := by
  have hnil {s : String} {rest : List String} (hs : s ≠ "") :
      joined separator (s :: rest) ≠ joined separator [] := by
    intro he
    have hchars := congrArg String.toList he
    rw [toList_joined_cons] at hchars
    exact hs (String.toList_eq_nil_iff.mp (List.append_eq_nil_iff.mp hchars).1)
  have hstop (rest : List String) : IsStop m (joinedTail separator rest) := by
    rw [joinedTail]
    split
    · intro c hc
      cases hc
    · exact hseparator _
  induction parts generalizing parts' with
  | nil =>
    cases parts' with
    | nil => rfl
    | cons s' rest' => exact absurd heq.symm (hnil (h' s' List.mem_cons_self).2)
  | cons s rest ih =>
    cases parts' with
    | nil => exact absurd heq (hnil (h s List.mem_cons_self).2)
    | cons s' rest' =>
      have hchars := congrArg String.toList heq
      rw [toList_joined_cons, toList_joined_cons] at hchars
      -- The first texts end at the same place, and what follows them is the same list.
      obtain ⟨rfl, htail⟩ := eq_of_append_eq_append (h s List.mem_cons_self).1
        (h' s' List.mem_cons_self).1 (hstop rest) (hstop rest') hchars
      rw [ih (fun a ha => h a (List.mem_cons_of_mem s ha))
        (fun a ha => h' a (List.mem_cons_of_mem s ha)) (joined_eq_of_joinedTail_eq hne htail)]

end SqlDialect.Text
