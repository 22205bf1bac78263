import SqlDialect.Proofs.Query.Frames

/-!
# Operations on one piece of SQL

The operations of a query that write something around one piece of SQL, and how they are told apart
again. What such an operation writes begins with the name of a function and a bracket, and that
nearly tells which operation it was. The two casts share their name and differ in how they end; the
granularities differ in the pattern, which ends all of them at the same distance from the end; a
week is a day around a date that no operation could have been given, since it begins with a quote;
and an interval is what follows the last comma.

Main statement: `fill_injective`, by which the text tells the operation and the operand.
-/

namespace SqlDialect

open Statement (Frame)

namespace Text

/-- The name of the function that a text calls: all before the first bracket. -/
def calledName (s : List Char) : List Char :=
  s.takeWhile (· ≠ '(')

theorem calledName_append {name : List Char} (h : '(' ∉ name) (rest : List Char) :
    calledName (name ++ '(' :: rest) = name := by
  induction name with
  | nil => rfl
  | cons c name ih =>
    have hc : c ≠ '(' := fun e => h (e ▸ List.mem_cons_self)
    have hname : calledName (name ++ '(' :: rest) = name :=
      ih fun hm => h (List.mem_cons_of_mem c hm)
    rw [calledName] at hname ⊢
    rw [List.cons_append, List.takeWhile_cons, if_pos (by simpa using hc), hname]

/-- A text that is not empty and does not begin with a quote. -/
def BeginsUnquoted (s : List Char) : Prop :=
  ∃ c rest, s = c :: rest ∧ c ≠ '\''

theorem BeginsUnquoted.append {s : List Char} (h : BeginsUnquoted s) (t : List Char) :
    BeginsUnquoted (s ++ t) := by
  obtain ⟨c, rest, rfl, hc⟩ := h
  exact ⟨c, rest ++ t, rfl, hc⟩

end Text

/-! ## Frames tell their operands -/

namespace Statement.Frame

theorem toList_fill (f : Frame) (s : String) :
    (f.fill s).toList = f.left.toList ++ (s.toList ++ f.right.toList) := by
  simp [fill]

/-- A frame tells what it is around. -/
theorem fill_cancel {f : Frame} {s t : String} (h : f.fill s = f.fill t) : s = t := by
  have hchars := congrArg String.toList h
  rw [toList_fill, toList_fill] at hchars
  exact String.toList_inj.mp (List.append_cancel_right (List.append_cancel_left hchars))

/-- Frames that begin alike and end at the same distance from the end tell how they end. -/
theorem fill_cancel_left {left right right' s t : String}
    (hlength : right.toList.length = right'.toList.length)
    (h : (⟨left, right⟩ : Frame).fill s = (⟨left, right'⟩ : Frame).fill t) :
    s = t ∧ right = right' := by
  have hchars := congrArg String.toList h
  rw [toList_fill, toList_fill] at hchars
  obtain ⟨hs, hright⟩ := List.append_inj' (List.append_cancel_left hchars) hlength
  exact ⟨String.toList_inj.mp hs, String.toList_inj.mp hright⟩

/-! ## Granularities -/

/-- The pattern of a granularity that is a formatted date. -/
def pattern? : Granularity → Option String
  | .second => some Granularity.secondPattern
  | .minute => some Granularity.minutePattern
  | .hour => some Granularity.hourPattern
  | .day => some Granularity.dayPattern
  | .week => some Granularity.dayPattern
  | .month => some Granularity.monthPattern
  | .quarter => none
  | .year => some Granularity.yearPattern

/-- What stands inside of the pattern: the operand, or for a week its distance from the reference
date. -/
def dated (g : Granularity) : Frame :=
  if g = .week then sinceReference "WEEK" else .empty

theorem fill_bucket_of_pattern? {g : Granularity} {pattern : String} (h : pattern? g = some pattern)
    (s : String) : (bucket g).fill s = (dateFormat pattern).fill ((dated g).fill s) := by
  cases g <;> cases h <;> simp [bucket, dated, fill_comp]

/-- Whether a text begins as the reference date plus some units does: it moves a date that is
written out. -/
def MovesLiteral (s : String) : Prop :=
  "DATE_ADD('".toList <+: s.toList

theorem movesLiteral_sinceReference (unit date : String) :
    MovesLiteral ((sinceReference unit).fill date) := by
  rw [MovesLiteral, toList_fill]
  have hleft : "DATE_ADD('".toList <+: (sinceReference unit).left.toList := by
    simp only [sinceReference, String.toList_append, List.append_assoc]
    exact List.prefix_append _ _
  exact hleft.trans (List.prefix_append _ _)

theorem calledName_dateFormat (pattern s : String) :
    Text.calledName ((dateFormat pattern).fill s).toList = "DATE_FORMAT".toList := by
  have hleft : "DATE_FORMAT(".toList = "DATE_FORMAT".toList ++ ['('] := by decide
  rw [toList_fill, dateFormat, hleft, List.append_assoc]
  exact Text.calledName_append (by decide) _

theorem calledName_of_movesLiteral {s : String} (h : MovesLiteral s) :
    Text.calledName s.toList = "DATE_ADD".toList := by
  obtain ⟨rest, hrest⟩ := h
  have hopening : "DATE_ADD('".toList = "DATE_ADD".toList ++ ['(', '\''] := by decide
  rw [← hrest, hopening, List.append_assoc]
  exact Text.calledName_append (by decide) _

/-- All patterns are of one length. -/
theorem length_of_pattern? {g : Granularity} {pattern : String} (h : pattern? g = some pattern) :
    (", '" ++ pattern ++ "')").toList.length = 26 := by
  cases g <;> cases h <;> decide

/-- Only a day and a week have the same pattern. -/
theorem eq_of_pattern?_eq {g g' : Granularity} (h : pattern? g = pattern? g') :
    g = g' ∨ (g = .day ∧ g' = .week) ∨ (g = .week ∧ g' = .day) := by
  have hall : ∀ a ∈ Granularity.all, ∀ b ∈ Granularity.all, pattern? a = pattern? b →
      a = b ∨ (a = .day ∧ b = .week) ∨ (a = .week ∧ b = .day) := by
    decide
  exact hall g g.mem_all g' g'.mem_all h

/-- A week and a day of one text: the date of the day is the week's date moved to the start of its
week, which is what a week writes inside of its pattern. -/
def IsDayOfWeek (g : Granularity) (s : String) (g' : Granularity) (s' : String) : Prop :=
  g = .week ∧ g' = .day ∧ s' = (sinceReference "WEEK").fill s

theorem IsDayOfWeek.movesLiteral {g g' : Granularity} {s s' : String} (h : IsDayOfWeek g s g' s') :
    MovesLiteral s' :=
  h.2.2 ▸ movesLiteral_sinceReference "WEEK" s

/-- **A bucket tells its granularity and its date**, but for a week that is a day. -/
theorem eq_of_fill_bucket_eq {g g' : Granularity} {s s' : String}
    (h : (bucket g).fill s = (bucket g').fill s') :
    (g = g' ∧ s = s') ∨ IsDayOfWeek g s g' s' ∨ IsDayOfWeek g' s' g s := by
  have hquarter {g : Granularity} {s : String} (hg : pattern? g = none) :
      Text.calledName ((bucket g).fill s).toList = "DATE_ADD".toList := by
    cases g <;> cases hg
    exact calledName_of_movesLiteral (movesLiteral_sinceReference _ _)
  have hdated {g : Granularity} {pattern s : String} (hg : pattern? g = some pattern) :
      Text.calledName ((bucket g).fill s).toList = "DATE_FORMAT".toList := by
    rw [fill_bucket_of_pattern? hg, calledName_dateFormat]
  have hnames : "DATE_ADD".toList ≠ "DATE_FORMAT".toList := by decide
  cases hp : pattern? g with
  | none =>
    cases hp' : pattern? g' with
    | none =>
      cases g <;> cases hp
      cases g' <;> cases hp'
      exact Or.inl ⟨rfl, fill_cancel h⟩
    | some pattern' => exact absurd ((hquarter hp).symm.trans (h ▸ hdated hp')) hnames
  | some pattern =>
    cases hp' : pattern? g' with
    | none => exact absurd ((hquarter hp').symm.trans (h ▸ hdated hp)) hnames
    | some pattern' =>
      rw [fill_bucket_of_pattern? hp, fill_bucket_of_pattern? hp'] at h
      obtain ⟨hinner, hright⟩ := fill_cancel_left
        ((length_of_pattern? hp).trans (length_of_pattern? hp').symm) h
      have hpattern : pattern? g = pattern? g' := by
        rw [hp, hp', fill_cancel (f := ⟨", '", "')"⟩) hright]
      have hday (s : String) : (dated .day).fill s = s := fill_empty s
      rcases eq_of_pattern?_eq hpattern with rfl | ⟨rfl, rfl⟩ | ⟨rfl, rfl⟩
      · exact Or.inl ⟨rfl, fill_cancel hinner⟩
      · rw [hday] at hinner
        exact Or.inr (Or.inr ⟨rfl, rfl, hinner⟩)
      · rw [hday] at hinner
        exact Or.inr (Or.inl ⟨rfl, rfl, hinner.symm⟩)

/-- No date that is written out and moved is the operand, so no week is a day. -/
theorem fill_bucket_injective {g g' : Granularity} {s s' : String} (hs : ¬ MovesLiteral s)
    (hs' : ¬ MovesLiteral s') (h : (bucket g).fill s = (bucket g').fill s') :
    g = g' ∧ s = s' := by
  rcases eq_of_fill_bucket_eq h with heq | hday | hday
  · exact heq
  · exact absurd hday.movesLiteral hs'
  · exact absurd hday.movesLiteral hs

theorem fill_timeGrouped_injective {g g' : Granularity} {s s' : String} (hs : ¬ MovesLiteral s)
    (hs' : ¬ MovesLiteral s') (h : (timeGrouped g).fill s = (timeGrouped g').fill s') :
    g = g' ∧ s = s' := by
  rw [timeGrouped, timeGrouped, fill_comp, fill_comp] at h
  exact fill_bucket_injective hs hs' (fill_cancel h)

/-- The two casts end differently. -/
theorem fill_timeGrouped_ne_char (g : Granularity) (s t : String) :
    (timeGrouped g).fill s ≠ char.fill t := by
  intro h
  have hgrouped : " AS DATETIME)".toList = " AS DATETIM".toList ++ ['E', ')'] := by decide
  have hchar : " as CHAR)".toList = " as CHA".toList ++ ['R', ')'] := by decide
  have hchars := congrArg String.toList h
  rw [timeGrouped, fill_comp, toList_fill, toList_fill, char, toList_fill] at hchars
  simp only [hgrouped, hchar, ← List.append_assoc] at hchars
  have hends := (List.append_inj' hchars rfl).2
  exact absurd hends (by decide)

/-- An interval without commas is what follows the last comma. -/
theorem fill_dateInterval_injective {isEarlier : Bool} {interval interval' s s' : String}
    (hi : ',' ∉ interval.toList) (hi' : ',' ∉ interval'.toList)
    (h : (dateInterval isEarlier interval).fill s = (dateInterval isEarlier interval').fill s') :
    interval = interval' ∧ s = s' := by
  have hright (i : String) :
      (dateInterval isEarlier i).right.toList =
        ',' :: (" INTERVAL ".toList ++ (i.toList ++ [')'])) := by
    have hfront : ", INTERVAL ".toList = ',' :: " INTERVAL ".toList := by decide
    have hback : ")".toList = [')'] := by decide
    rw [dateInterval, String.toList_append, String.toList_append, hfront, hback, List.cons_append,
      List.cons_append, List.append_assoc]
  have hback {i : String} (hi : ',' ∉ i.toList) :
      ',' ∉ " INTERVAL ".toList ++ (i.toList ++ [')']) := by
    simp [hi]
  have hchars := congrArg String.toList h
  rw [toList_fill, toList_fill, hright, hright, ← List.append_assoc] at hchars
  rw [← List.append_assoc (dateInterval isEarlier interval').left.toList] at hchars
  obtain ⟨hfront, hinterval⟩ := Text.eq_of_append_cons_eq (hback hi) (hback hi') hchars
  refine ⟨String.toList_inj.mp ?_, String.toList_inj.mp (List.append_cancel_left hfront)⟩
  exact List.append_cancel_right (List.append_cancel_left hinterval)

end Statement.Frame

/-! ## Operations -/

namespace Query

variable {zones : Zone.Lookup}

/-- An operation of a query on one piece of SQL. -/
inductive Operation where
  | timeGrouped (g : Granularity)
  | moved (isEarlier : Bool) (interval : String)
  | zoned
  | dateTime
  | asString
  deriving DecidableEq, Repr

/-- A function of SQL that an operation calls. -/
inductive Callee where
  | cast | dateAdd | dateSub | convertTz | timestamp | concat
  deriving DecidableEq, Repr

namespace Callee

/-- The name of a function. -/
def name : Callee → String
  | .cast => "CAST"
  | .dateAdd => "DATE_ADD"
  | .dateSub => "DATE_SUB"
  | .convertTz => "CONVERT_TZ"
  | .timestamp => "TIMESTAMP"
  | .concat => "CONCAT"

theorem name_injective {f g : Callee} (h : f.name = g.name) : f = g := by
  cases f <;> cases g <;> first | rfl | exact absurd h (by decide)

theorem bracket_notMem_name (f : Callee) : '(' ∉ f.name.toList := by
  cases f <;> decide

theorem beginsUnquoted_name (f : Callee) : Text.BeginsUnquoted f.name.toList := by
  cases f <;> exact ⟨_, _, rfl, by decide⟩

theorem calledName_of_append {f : Callee} {s more : List Char}
    (h : s = f.name.toList ++ '(' :: more) : Text.calledName s = f.name.toList := by
  rw [h]
  exact Text.calledName_append f.bracket_notMem_name more

end Callee

/-- The offset that the time zone of a query has at an instant, if there is one. -/
def offsetAt (q : Query zones) (now : Instant) : String :=
  match Zone.utcOffset zones (.text q.timezone) now with
  | .ok offset => offset
  | .error _ => ""

/-- An offset that is not empty is the one that a field is moved to. -/
theorem utcOffset_of_offsetAt_ne {q : Query zones} {now : Instant} (h : q.offsetAt now ≠ "") :
    Zone.utcOffset zones (.text q.timezone) now = .ok (q.offsetAt now) := by
  rw [offsetAt] at h ⊢
  cases hoffset : Zone.utcOffset zones (.text q.timezone) now with
  | ok offset => rfl
  | error e =>
    rw [hoffset] at h
    exact absurd rfl h

theorem quote_notMem_offsetAt (q : Query zones) (now : Instant) : '\'' ∉ (q.offsetAt now).toList := by
  rw [offsetAt]
  split
  · next offset h => exact Zone.quote_notMem_utcOffset h
  · simp

namespace Operation

/-- Carries an operation out, a granularity being given by its name or as a member. -/
def apply (q : Query zones) (now : Instant) (isNamed : Bool) (sql : String) :
    Operation → Except Failure String
  | .timeGrouped g => (q.timeGroupedColumn (g.given isNamed) (.text sql)).result
  | .moved false interval => .ok (q.addInterval (.text sql) (.text interval))
  | .moved true interval => .ok (q.subtractInterval (.text sql) (.text interval))
  | .zoned => (q.convertTz now (.text sql)).result
  | .dateTime => .ok (q.dateTimeCast (.text sql))
  | .asString => .ok (q.castToString (.text sql))

/-- What an operation writes around its operand. -/
def frame (offset : String) : Operation → Frame
  | .timeGrouped g => Frame.timeGrouped g
  | .moved isEarlier interval => Frame.dateInterval isEarlier interval
  | .zoned => Frame.atOffset offset
  | .dateTime => Frame.timestamp
  | .asString => Frame.char

/-- The function that an operation calls. -/
def callee : Operation → Callee
  | .timeGrouped _ => .cast
  | .moved false _ => .dateAdd
  | .moved true _ => .dateSub
  | .zoned => .convertTz
  | .dateTime => .timestamp
  | .asString => .cast

/-- An interval without quotes, brackets and commas. -/
def IsPlain : Operation → Prop
  | .moved _ interval => ∀ c ∈ interval.toList, Text.Marks.list.IsPlain c
  | _ => True

/-- **An operation writes its frame.** -/
theorem apply_eq_ok {q : Query zones} {now : Instant} {isNamed : Bool} {op : Operation} {sql s : String}
    (h : op.apply q now isNamed sql = .ok s) : s = (op.frame (q.offsetAt now)).fill sql := by
  cases op with
  | timeGrouped g =>
    obtain ⟨g', hg, rfl⟩ := (timeGroupedColumn_eq_ok_iff q).mp h
    obtain rfl : g = g' := Except.ok.inj ((g.parse_given isNamed).symm.trans hg)
    rfl
  | moved isEarlier interval =>
    cases isEarlier <;> cases h
    · exact addInterval_eq q _ _
    · exact subtractInterval_eq q _ _
  | zoned =>
    obtain ⟨offset, hoffset, rfl⟩ := (convertTz_eq_ok_iff q).mp h
    rw [offsetAt, hoffset]
    rfl
  | dateTime =>
    cases h
    exact dateTimeCast_eq q _
  | asString =>
    cases h
    exact castToString_eq q _

/-- An operation succeeds if there is an offset to move to. -/
theorem apply_eq {q : Query zones} {now : Instant} (h : q.offsetAt now ≠ "") (isNamed : Bool)
    (op : Operation) (sql : String) :
    op.apply q now isNamed sql = .ok ((op.frame (q.offsetAt now)).fill sql) := by
  cases op with
  | timeGrouped g => exact (timeGroupedColumn_eq_ok_iff q).mpr ⟨g, g.parse_given isNamed, rfl⟩
  | moved isEarlier interval =>
    cases isEarlier
    · exact congrArg Except.ok (addInterval_eq q _ _)
    · exact congrArg Except.ok (subtractInterval_eq q _ _)
  | zoned => exact (convertTz_eq_ok_iff q).mpr ⟨_, utcOffset_of_offsetAt_ne h, rfl⟩
  | dateTime => exact congrArg Except.ok (dateTimeCast_eq q _)
  | asString => exact congrArg Except.ok (castToString_eq q _)

/-- What an operation writes begins with the name of its function and a bracket. -/
theorem exists_left (op : Operation) (offset : String) :
    ∃ more, (op.frame offset).left.toList = op.callee.name.toList ++ '(' :: more := by
  have hopening (f : Callee) : (f.name ++ "(").toList = f.name.toList ++ '(' :: [] := by
    rw [String.toList_append]
    rfl
  cases op with
  | timeGrouped g =>
    refine ⟨(Frame.bucket g).left.toList, ?_⟩
    show ((Callee.cast.name ++ "(") ++ (Frame.bucket g).left).toList = _
    rw [String.toList_append, hopening, List.append_assoc]
    rfl
  | moved isEarlier interval =>
    cases isEarlier
    · exact ⟨[], hopening .dateAdd⟩
    · exact ⟨[], hopening .dateSub⟩
  | zoned => exact ⟨[], hopening .convertTz⟩
  | dateTime => exact ⟨[], hopening .timestamp⟩
  | asString => exact ⟨[], hopening .cast⟩

/-- The text of an operation: the name of its function, a bracket, and more. -/
theorem exists_fill (op : Operation) (offset s : String) :
    ∃ more, ((op.frame offset).fill s).toList = op.callee.name.toList ++ '(' :: more := by
  obtain ⟨more, hleft⟩ := op.exists_left offset
  exact ⟨_, by rw [Frame.toList_fill, hleft, List.append_assoc, List.cons_append]⟩

theorem callee_eq_of_fill_eq {op op' : Operation} {offset s s' : String}
    (h : (op.frame offset).fill s = (op'.frame offset).fill s') : op.callee = op'.callee := by
  obtain ⟨more, hmore⟩ := op.exists_fill offset s
  obtain ⟨more', hmore'⟩ := op'.exists_fill offset s'
  apply Callee.name_injective
  apply String.toList_inj.mp
  rw [← Callee.calledName_of_append hmore, h, Callee.calledName_of_append hmore']

/-- An operation moves a literal date only if its operand begins with a quote. -/
theorem not_movesLiteral_fill (op : Operation) (offset : String) {s : String}
    (hs : Text.BeginsUnquoted s.toList) : ¬ Frame.MovesLiteral ((op.frame offset).fill s) := by
  intro hmoves
  obtain ⟨more, hmore⟩ := op.exists_fill offset s
  have hname : op.callee.name.toList = Callee.dateAdd.name.toList := by
    rw [← Callee.calledName_of_append hmore, Frame.calledName_of_movesLiteral hmoves]
    rfl
  have hcallee : op.callee = .dateAdd := Callee.name_injective (String.toList_inj.mp hname)
  cases op with
  | timeGrouped g => cases hcallee
  | zoned => cases hcallee
  | dateTime => cases hcallee
  | asString => cases hcallee
  | moved isEarlier interval =>
    cases isEarlier with
    | true => cases hcallee
    | false =>
      obtain ⟨rest, hrest⟩ := hmoves
      obtain ⟨c, tail, hchars, hc⟩ := hs
      have hopening : "DATE_ADD('".toList = "DATE_ADD(".toList ++ ['\''] := by decide
      rw [Frame.toList_fill, hopening, List.append_assoc, hchars] at hrest
      exact hc (List.cons.inj (List.append_cancel_left hrest)).1.symm

/-- **An operation can be read off its text**, and so can its operand, if the operand is no literal
date that is moved and no comma stands in an interval. -/
theorem fill_injective {op op' : Operation} {offset s s' : String} (hop : op.IsPlain)
    (hop' : op'.IsPlain) (hs : ¬ Frame.MovesLiteral s) (hs' : ¬ Frame.MovesLiteral s')
    (h : (op.frame offset).fill s = (op'.frame offset).fill s') : op = op' ∧ s = s' := by
  have hcallee := callee_eq_of_fill_eq h
  have hcomma {i : String} (hi : ∀ c ∈ i.toList, Text.Marks.list.IsPlain c) : ',' ∉ i.toList :=
    fun hm => absurd (hi _ hm) (by decide)
  -- The function tells all operations apart but the two casts.
  cases op with
  | timeGrouped g =>
    cases op' with
    | timeGrouped g' =>
      obtain ⟨rfl, rfl⟩ := Frame.fill_timeGrouped_injective hs hs' h
      exact ⟨rfl, rfl⟩
    | moved isEarlier' interval' => cases isEarlier' <;> cases hcallee
    | zoned => cases hcallee
    | dateTime => cases hcallee
    | asString => exact absurd h (Frame.fill_timeGrouped_ne_char g s s')
  | moved isEarlier interval =>
    cases op' with
    | timeGrouped g' => cases isEarlier <;> cases hcallee
    | moved isEarlier' interval' =>
      obtain rfl : isEarlier = isEarlier' := by
        cases isEarlier <;> cases isEarlier' <;> first | rfl | cases hcallee
      obtain ⟨rfl, rfl⟩ := Frame.fill_dateInterval_injective (hcomma hop) (hcomma hop') h
      exact ⟨rfl, rfl⟩
    | zoned => cases isEarlier <;> cases hcallee
    | dateTime => cases isEarlier <;> cases hcallee
    | asString => cases isEarlier <;> cases hcallee
  | zoned =>
    cases op' with
    | timeGrouped g' => cases hcallee
    | moved isEarlier' interval' => cases isEarlier' <;> cases hcallee
    | zoned => exact ⟨rfl, Frame.fill_cancel h⟩
    | dateTime => cases hcallee
    | asString => cases hcallee
  | dateTime =>
    cases op' with
    | timeGrouped g' => cases hcallee
    | moved isEarlier' interval' => cases isEarlier' <;> cases hcallee
    | zoned => cases hcallee
    | dateTime => exact ⟨rfl, Frame.fill_cancel h⟩
    | asString => cases hcallee
  | asString =>
    cases op' with
    | timeGrouped g' => exact absurd h.symm (Frame.fill_timeGrouped_ne_char g' s' s)
    | moved isEarlier' interval' => cases isEarlier' <;> cases hcallee
    | zoned => cases hcallee
    | dateTime => cases hcallee
    | asString => exact ⟨rfl, Frame.fill_cancel h⟩

end Operation

end Query

end SqlDialect
