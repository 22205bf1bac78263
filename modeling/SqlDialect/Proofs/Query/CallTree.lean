import SqlDialect.Proofs.Query.Operation
import SqlDialect.Zone.Excerpt

/-!
# Trees of calls

A `CallTree` is an expression put together by the operations of a query: atoms, operations on one
expression, and expressions put one after another. `CallTree.sql` carries the operations out, from
the atoms up, and `CallTree.text` is what comes out if they succeed.

The text can be read back. An atom holds no bracket, and an operation is read off its text; in a
concatenation each part ends at the first comma outside of all brackets, since every text of a tree
is closed. So two trees with one text are the same tree, by induction on both.

Main statements: `sql_eq_ok`, `text_isClosed`, and `sql_injective`, by which the text determines the
tree.
-/

namespace SqlDialect.Query

open Statement (Frame)
open Text (Marks)

/-- An expression put together by the operations of a query. -/
inductive CallTree where
  | atom (s : String)
  | applied (op : Operation) (operand : CallTree)
  | concatenated (parts : List CallTree)

namespace CallTree

variable {zones : Zone.Lookup}

mutual

/-- Carries the operations of a tree out, granularities being given by their names or as members. -/
def sql (q : Query zones) (now : Instant) (isNamed : Bool) : CallTree → Except Failure String
  | .atom s => .ok s
  | .applied op operand =>
    match operand.sql q now isNamed with
    | .ok s => op.apply q now isNamed s
    | .error e => .error e
  | .concatenated parts =>
    match sqlOfAll q now isNamed parts with
    | .ok texts => q.concatStrings (.list (texts.map .text))
    | .error e => .error e

/-- Carries the operations of several trees out. -/
def sqlOfAll (q : Query zones) (now : Instant) (isNamed : Bool) :
    List CallTree → Except Failure (List String)
  | [] => .ok []
  | t :: rest =>
    match t.sql q now isNamed with
    | .ok s => (sqlOfAll q now isNamed rest).map (s :: ·)
    | .error e => .error e

end

mutual

/-- What the operations of a tree write where times are moved to an offset. -/
def text (offset : String) : CallTree → String
  | .atom s => s
  | .applied op operand => (op.frame offset).fill (operand.text offset)
  | .concatenated parts => Rules.concatenation (textOfAll offset parts)

/-- What the operations of several trees write. -/
def textOfAll (offset : String) : List CallTree → List String
  | [] => []
  | t :: rest => t.text offset :: textOfAll offset rest

end

mutual

/-- No quote, bracket or comma stands in an atom or an interval, and no atom is empty. -/
def IsPlain : CallTree → Prop
  | .atom s => s ≠ "" ∧ ∀ c ∈ s.toList, Marks.list.IsPlain c
  | .applied op operand => op.IsPlain ∧ operand.IsPlain
  | .concatenated parts => AllPlain parts

/-- The same for several trees. -/
def AllPlain : List CallTree → Prop
  | [] => True
  | t :: rest => t.IsPlain ∧ AllPlain rest

end

/-! ## What is written -/

mutual

/-- **Trees write their text** if their operations succeed. -/
theorem sql_eq_ok {q : Query zones} {now : Instant} {isNamed : Bool} : ∀ {t : CallTree} {s : String},
    t.sql q now isNamed = .ok s → s = t.text (q.offsetAt now)
  | .atom a, s, h => (Except.ok.inj h).symm
  | .applied op operand, s, h => by
    rw [sql] at h
    split at h
    · next inner hinner =>
      rw [text, ← sql_eq_ok hinner]
      exact Operation.apply_eq_ok h
    · cases h
  | .concatenated parts, s, h => by
    rw [sql] at h
    split at h
    · next texts htexts =>
      rw [text, ← sqlOfAll_eq_ok htexts]
      obtain ⟨elements, parts', helements, hparts, rfl⟩ := (concatStrings_eq_ok_iff q).mp h
      cases helements
      obtain rfl : texts = parts' := Except.ok.inj ((Rules.textsOf_text texts).symm.trans hparts)
      rfl
    · cases h

theorem sqlOfAll_eq_ok {q : Query zones} {now : Instant} {isNamed : Bool} :
    ∀ {ts : List CallTree} {texts : List String},
      sqlOfAll q now isNamed ts = .ok texts → texts = textOfAll (q.offsetAt now) ts
  | [], texts, h => (Except.ok.inj h).symm
  | t :: rest, texts, h => by
    rw [sqlOfAll] at h
    split at h
    · next s hs =>
      cases hmore : sqlOfAll q now isNamed rest with
      | error e =>
        rw [hmore] at h
        cases h
      | ok more =>
        rw [hmore] at h
        cases h
        rw [textOfAll, ← sql_eq_ok hs, ← sqlOfAll_eq_ok hmore]
    · cases h

end

mutual

/-- The operations of a tree succeed if there is an offset to move to. -/
theorem sql_eq {q : Query zones} {now : Instant} (h : q.offsetAt now ≠ "") (isNamed : Bool) :
    ∀ t : CallTree, t.sql q now isNamed = .ok (t.text (q.offsetAt now))
  | .atom _ => rfl
  | .applied op operand => by
    rw [sql, sql_eq h isNamed operand]
    exact Operation.apply_eq h isNamed op _
  | .concatenated parts => by
    rw [sql, sqlOfAll_eq h isNamed parts]
    exact (concatStrings_eq_ok_iff q).mpr ⟨_, _, rfl, Rules.textsOf_text _, rfl⟩

theorem sqlOfAll_eq {q : Query zones} {now : Instant} (h : q.offsetAt now ≠ "") (isNamed : Bool) :
    ∀ ts : List CallTree, sqlOfAll q now isNamed ts = .ok (textOfAll (q.offsetAt now) ts)
  | [] => rfl
  | t :: rest => by
    rw [sqlOfAll, sql_eq h isNamed t, sqlOfAll_eq h isNamed rest]
    rfl

end

/-! ## Closed texts -/

variable {offset : String}

theorem isBalanced_frame (hoffset : '\'' ∉ offset.toList) {op : Operation} (h : op.IsPlain) :
    (op.frame offset).IsBalanced .list := by
  cases op with
  | timeGrouped g => exact Frame.isBalanced_timeGrouped .list g
  | moved isEarlier interval =>
    exact Frame.isBalanced_dateInterval isEarlier (Text.isClosed_of_plain h)
  | zoned => exact Frame.isBalanced_atOffset .list hoffset
  | dateTime => exact Frame.isBalanced_timestamp .list
  | asString => exact Frame.isBalanced_char .list

mutual

/-- The text of a tree is closed, and no comma stands in it outside of brackets. -/
theorem text_isClosed (hoffset : '\'' ∉ offset.toList) : ∀ {t : CallTree}, t.IsPlain →
    Text.IsClosed .list (t.text offset)
  | .atom _, h => Text.isClosed_of_plain h.2
  | .applied _ _, h => (isBalanced_frame hoffset h.1).fill (text_isClosed hoffset h.2)
  | .concatenated _, h => Rules.isClosed_concatenation (textOfAll_isClosed hoffset h)

theorem textOfAll_isClosed (hoffset : '\'' ∉ offset.toList) : ∀ {ts : List CallTree}, AllPlain ts →
    ∀ s ∈ textOfAll offset ts, Text.IsClosed .list s
  | [], _ => by simp [textOfAll]
  | _ :: _, h =>
    List.forall_mem_cons.mpr ⟨text_isClosed hoffset h.1, textOfAll_isClosed hoffset h.2⟩

end

/-! ## How a text begins -/

theorem exists_concatenation (parts : List String) :
    ∃ more, (Rules.concatenation parts).toList = Callee.concat.name.toList ++ '(' :: more := by
  have hopening : "CONCAT(".toList = Callee.concat.name.toList ++ ['('] := by decide
  refine ⟨(Text.joined ", " parts).toList ++ ")".toList, ?_⟩
  rw [Rules.concatenation, String.toList_append, String.toList_append, hopening]
  simp

/-- The text of a tree is not empty and does not begin with a quote. -/
theorem beginsUnquoted_text : ∀ {t : CallTree}, t.IsPlain →
    Text.BeginsUnquoted (t.text offset).toList
  | .atom s, h => by
    obtain ⟨hs, hplain⟩ := h
    cases hchars : s.toList with
    | nil => exact absurd (String.toList_eq_nil_iff.mp hchars) hs
    | cons c rest =>
      refine ⟨c, rest, hchars, ?_⟩
      rintro rfl
      exact absurd (hplain '\'' (hchars ▸ List.mem_cons_self)) (by decide)
  | .applied op operand, _ => by
    obtain ⟨more, hmore⟩ := op.exists_fill offset (operand.text offset)
    rw [text, hmore]
    exact op.callee.beginsUnquoted_name.append _
  | .concatenated parts, _ => by
    obtain ⟨more, hmore⟩ := exists_concatenation (textOfAll offset parts)
    rw [text, hmore]
    exact Callee.concat.beginsUnquoted_name.append _

theorem text_ne_empty {t : CallTree} (h : t.IsPlain) : t.text offset ≠ "" := by
  obtain ⟨c, rest, hchars, -⟩ : Text.BeginsUnquoted (t.text offset).toList :=
    beginsUnquoted_text h
  intro hempty
  rw [hempty] at hchars
  cases hchars

theorem ne_empty_of_mem_textOfAll : ∀ {ts : List CallTree}, AllPlain ts →
    ∀ s ∈ textOfAll offset ts, s ≠ ""
  | [], _ => by simp [textOfAll]
  | _ :: _, h => List.forall_mem_cons.mpr ⟨text_ne_empty h.1, ne_empty_of_mem_textOfAll h.2⟩

/-- The text of an atom holds no bracket. -/
theorem bracket_notMem_atom {s : String} (h : (atom s).IsPlain) : '(' ∉ s.toList :=
  fun hm => absurd (h.2 _ hm) (by decide)

/-- The text of a tree is no literal date that is moved. -/
theorem not_movesLiteral_text : ∀ {t : CallTree}, t.IsPlain → ¬ Frame.MovesLiteral (t.text offset)
  | .atom s, h => by
    rintro ⟨rest, hrest⟩
    have hbracket : '(' ∈ "DATE_ADD('".toList := by decide
    exact bracket_notMem_atom h (hrest ▸ List.mem_append_left rest hbracket)
  | .applied op operand, h => op.not_movesLiteral_fill offset (beginsUnquoted_text h.2)
  | .concatenated parts, _ => by
    intro hmoves
    obtain ⟨more, hmore⟩ := exists_concatenation (textOfAll offset parts)
    have hname := Frame.calledName_of_movesLiteral hmoves
    rw [text, Callee.calledName_of_append hmore] at hname
    exact absurd (Callee.name_injective (g := .dateAdd) (String.toList_inj.mp hname)) (by decide)

/-! ## Reading back -/

/-- An atom is no operation. -/
theorem atom_text_ne {s u : String} (h : (atom s).IsPlain) {f : Callee} {more : List Char}
    (hu : u.toList = f.name.toList ++ '(' :: more) : s ≠ u := by
  rintro rfl
  exact bracket_notMem_atom h (by simp [hu])

/-- An operation on one expression puts no expressions one after another. -/
theorem applied_text_ne (op : Operation) (s : String) (parts : List String) :
    (op.frame offset).fill s ≠ Rules.concatenation parts := by
  intro heq
  obtain ⟨more, hmore⟩ := op.exists_fill offset s
  obtain ⟨more', hmore'⟩ := exists_concatenation parts
  have hname : op.callee.name.toList = Callee.concat.name.toList := by
    rw [← Callee.calledName_of_append hmore, heq, Callee.calledName_of_append hmore']
  have hcallee := Callee.name_injective (String.toList_inj.mp hname)
  rcases op with g | ⟨_ | _, interval⟩ | _ | _ | _ <;> cases hcallee

theorem textOfAll_eq_of_concatenation_eq (hoffset : '\'' ∉ offset.toList) {ts us : List CallTree}
    (hts : AllPlain ts) (hus : AllPlain us)
    (h : Rules.concatenation (textOfAll offset ts) = Rules.concatenation (textOfAll offset us)) :
    textOfAll offset ts = textOfAll offset us := by
  have hcomma (more : List Char) : Text.IsStop .list (", ".toList ++ more) := by
    have hopening : ", ".toList = ',' :: [' '] := by decide
    intro c hc
    rw [hopening] at hc
    cases hc
    decide
  have hjoined := Frame.fill_cancel (f := ⟨"CONCAT(", ")"⟩) h
  refine Text.joined_injective (by decide) hcomma ?_ ?_ hjoined
  · exact fun s hs => ⟨textOfAll_isClosed hoffset hts s hs, ne_empty_of_mem_textOfAll hts s hs⟩
  · exact fun s hs => ⟨textOfAll_isClosed hoffset hus s hs, ne_empty_of_mem_textOfAll hus s hs⟩

-- By induction on one tree, with the cases of the other: what is outermost can be read off the
-- text, and what is inside is equal because the frame cancels or the list is cut alike.
mutual

/-- **A text is the text of one tree.** -/
theorem text_injective (hoffset : '\'' ∉ offset.toList) : ∀ {t u : CallTree}, t.IsPlain →
    u.IsPlain → t.text offset = u.text offset → t = u
  | .atom s, .atom s', _, _, heq => by
    rw [text, text] at heq
    rw [heq]
  | .atom s, .applied op operand, ht, _, heq => by
    obtain ⟨more, hmore⟩ := op.exists_fill offset (operand.text offset)
    exact absurd heq (atom_text_ne ht hmore)
  | .atom s, .concatenated parts, ht, _, heq => by
    obtain ⟨more, hmore⟩ := exists_concatenation (textOfAll offset parts)
    exact absurd heq (atom_text_ne ht hmore)
  | .applied op operand, .atom s, _, hu, heq => by
    obtain ⟨more, hmore⟩ := op.exists_fill offset (operand.text offset)
    exact absurd heq.symm (atom_text_ne hu hmore)
  | .applied op operand, .applied op' operand', ht, hu, heq => by
    obtain ⟨rfl, hinner⟩ := Operation.fill_injective ht.1 hu.1 (not_movesLiteral_text ht.2)
      (not_movesLiteral_text hu.2) heq
    rw [text_injective hoffset ht.2 hu.2 hinner]
  | .applied op operand, .concatenated parts, _, _, heq => absurd heq (applied_text_ne op _ _)
  | .concatenated parts, .atom s, _, hu, heq => by
    obtain ⟨more, hmore⟩ := exists_concatenation (textOfAll offset parts)
    exact absurd heq.symm (atom_text_ne hu hmore)
  | .concatenated parts, .applied op operand, _, _, heq =>
    absurd heq.symm (applied_text_ne op _ _)
  | .concatenated parts, .concatenated parts', ht, hu, heq => by
    rw [textOfAll_injective hoffset ht hu (textOfAll_eq_of_concatenation_eq hoffset ht hu heq)]

/-- Texts are the texts of one list of trees. -/
theorem textOfAll_injective (hoffset : '\'' ∉ offset.toList) : ∀ {ts us : List CallTree},
    AllPlain ts → AllPlain us → textOfAll offset ts = textOfAll offset us → ts = us
  | [], [], _, _, _ => rfl
  | [], u :: us, _, _, heq => by cases heq
  | t :: ts, [], _, _, heq => by cases heq
  | t :: ts, u :: us, ht, hu, heq => by
    obtain ⟨hhead, htail⟩ := List.cons.inj heq
    rw [text_injective hoffset ht.1 hu.1 hhead, textOfAll_injective hoffset ht.2 hu.2 htail]

end

/-- **The text determines the tree.** Whatever the query and the time, and whether granularities are
given by their names or as members: two trees whose atoms and intervals hold no quotes, brackets and
commas, and that write the same text, are the same. -/
theorem sql_injective (q : Query zones) (now : Instant) {t u : CallTree} (ht : t.IsPlain) (hu : u.IsPlain)
    {isNamed isNamed' : Bool} {s : String} (hts : t.sql q now isNamed = .ok s)
    (hus : u.sql q now isNamed' = .ok s) : t = u := by
  apply text_injective (q.quote_notMem_offsetAt now) ht hu
  rw [← sql_eq_ok hts, ← sql_eq_ok hus]

/-- A week inside of a list, named in one tree and given as a member in the other. -/
theorem sql_injective_week :
    (concatenated [applied .zoned (atom "a b"), applied (.timeGrouped .week) (atom "c")]).IsPlain ∧
      (∀ isNamed, (concatenated
        [applied .zoned (atom "a b"), applied (.timeGrouped .week) (atom "c")]).sql
          (⟨.doris, ⟨"Asia/Kolkata", .null, by decide⟩⟩ : Query Zone.excerpt) ⟨0⟩ isNamed =
            .ok ("CONCAT(CONVERT_TZ(a b, @@session.time_zone, '+05:30'), " ++
              "CAST(DATE_FORMAT(DATE_ADD('1900-01-01', INTERVAL TIMESTAMPDIFF(WEEK, " ++
              "'1900-01-01', c) WEEK), '%Y-%m-%dT00:00:00.000') AS DATETIME))")) ∧
      concatenated [applied .zoned (atom "a b"), applied (.timeGrouped .week) (atom "c")] =
        concatenated [applied .zoned (atom "a b"), applied (.timeGrouped .week) (atom "c")] := by
  have hfirst : ∀ c ∈ "a b".toList, Marks.list.IsPlain c := by
    intro c hc
    have hc : c = 'a' ∨ c = ' ' ∨ c = 'b' := by simpa using hc
    rcases hc with rfl | rfl | rfl <;> decide
  have hsecond : ∀ c ∈ "c".toList, Marks.list.IsPlain c := by
    intro c hc
    obtain rfl : c = 'c' := by simpa using hc
    decide
  have hplain : (concatenated
      [applied .zoned (atom "a b"), applied (.timeGrouped .week) (atom "c")]).IsPlain :=
    ⟨⟨trivial, by decide, hfirst⟩, ⟨trivial, by decide, hsecond⟩, trivial⟩
  have hoffset :
      (⟨.doris, ⟨"Asia/Kolkata", .null, by decide⟩⟩ : Query Zone.excerpt).offsetAt ⟨0⟩ =
        "+05:30" := by
    decide
  have htext : (concatenated
      [applied .zoned (atom "a b"), applied (.timeGrouped .week) (atom "c")]).text "+05:30" =
        "CONCAT(CONVERT_TZ(a b, @@session.time_zone, '+05:30'), " ++
          "CAST(DATE_FORMAT(DATE_ADD('1900-01-01', INTERVAL TIMESTAMPDIFF(WEEK, " ++
          "'1900-01-01', c) WEEK), '%Y-%m-%dT00:00:00.000') AS DATETIME))" := by
    decide +kernel
  have hsql (isNamed : Bool) := sql_eq (by rw [hoffset]; decide) isNamed
    (q := (⟨.doris, ⟨"Asia/Kolkata", .null, by decide⟩⟩ : Query Zone.excerpt)) (concatenated
      [applied .zoned (atom "a b"), applied (.timeGrouped .week) (atom "c")])
  rw [hoffset, htext] at hsql
  exact ⟨hplain, hsql, sql_injective _ _ hplain hplain (hsql true) (hsql false)⟩

end CallTree

end SqlDialect.Query
