import SqlDialect.Proofs.Template.Missing
import SqlDialect.Proofs.Template.Order
import SqlDialect.Template.Engines

/-!
# Templates in segments

The templates of the engines are simpler than templates may be. They are rows of literal texts, of
parameters and of choices between two literal texts by a parameter, and `Segment.sources` writes such
a row the way it stands in the source of a template. For a template of this form filling in can be
said without the steps of reading it: the parameters are asked for from left to right, the first one
that was not given is the failure, and if all were given the result is the texts of the segments.
What a parameter is shown as is put down as it is, whatever it looks like, because only the source is
ever cut into segments.

Main statements: `render_of_segments?`, by which filling in goes segment by segment;
`fillAll_of_given` and `fillAll_of_missing`, its two outcomes; `isSegmented_engines`, by which all
templates of the engines have this form; and `render_verbatim`.
-/

namespace SqlDialect.Template

/-- A part of a simple template: a text, a parameter that is written out, or two texts of which a
parameter selects one. -/
inductive Segment where
  | literal (s : String)
  | parameter (name : String)
  | choice (test yes no : String)
  deriving DecidableEq

namespace Segment

/-- How a segment is written in a template. -/
def source : Segment → String
  | .literal s => s
  | .parameter name => "\x7b\x7b " ++ name ++ " \x7d\x7d"
  | .choice test yes no =>
    "\x7b% if " ++ test ++ " %\x7d" ++ yes ++
      (if no.isEmpty then "" else "\x7b% else %\x7d" ++ no) ++ "\x7b% endif %\x7d"

/-- How a row of segments is written in a template. -/
def sources (segments : List Segment) : String :=
  Text.concat (segments.map source)

/-- No tag starts in the text. -/
def isPlainText (s : String) : Bool :=
  s.toList.all (· ≠ '{')

def isPlainName (s : String) : Bool :=
  !s.isEmpty && s.toList.all fun c => c.isAlphanum || c = '_'

/-- The segment can be told from what is around it. -/
def isPlain : Segment → Bool
  | .literal s => isPlainText s
  | .parameter name => isPlainName name
  | .choice test yes no => isPlainName test && isPlainText yes && isPlainText no

/-- The parameter that a segment mentions. -/
def mention? : Segment → Option String
  | .literal _ => none
  | .parameter name => some name
  | .choice test _ _ => some test

/-- The parameters that are mentioned, in reading order. -/
def mentions (segments : List Segment) : List String :=
  segments.filterMap mention?

/-- The first parameter in reading order that was not given. -/
def firstMissing? (params : Parameters) (segments : List Segment) : Option String :=
  (mentions segments).find? fun n => (Entries.get? n params).isNone

/-- The text of a segment, with a value for each parameter. -/
def written (value : String → Value) : Segment → String
  | .literal s => s
  | .parameter name => (value name).shown
  | .choice test yes no => if (value test).isTrue then yes else no

def fill (params : Parameters) : Segment → Except Failure String
  | .literal s => .ok s
  | .parameter name => ((Term.name name).eval params).map Value.shown
  | .choice test yes no =>
    ((Term.name test).eval params).map fun v => if v.isTrue then yes else no

/-- Fills in segments from left to right. -/
def fillAll (params : Parameters) : List Segment → Except Failure String
  | [] => .ok ""
  | segment :: rest => follow (segment.fill params) (fillAll params rest)

/-! ## Filling segments in -/

variable {params : Parameters} {value : String → Value} {segment : Segment}

theorem mentions_cons (segment : Segment) (rest : List Segment) :
    mentions (segment :: rest) = segment.mention?.toList ++ mentions rest := by
  rw [mentions, List.filterMap_cons]
  cases segment <;> rfl

theorem firstMissing?_eq_none_iff {segments : List Segment} :
    firstMissing? params segments = none ↔
      ∀ n ∈ mentions segments, (Entries.get? n params).isSome = true := by
  simp [firstMissing?, Option.ne_none_iff_isSome]

theorem fill_of_given (h : ∀ n ∈ segment.mention?, Entries.get? n params = some (value n)) :
    segment.fill params = .ok (segment.written value) := by
  cases segment with
  | literal s => rfl
  | parameter name =>
    have hname : Entries.get? name params = some (value name) := h name rfl
    simp [fill, written, Term.eval, hname, Except.map]
  | choice test yes no =>
    have htest : Entries.get? test params = some (value test) := h test rfl
    simp [fill, written, Term.eval, htest, Except.map]

theorem fill_of_missing {n : String} (hn : segment.mention? = some n)
    (h : Entries.get? n params = none) :
    segment.fill params = .error (.undefinedParameter n) := by
  have heval : (Term.name n).eval params = .error (.undefinedParameter n) :=
    (eval_name params n).mpr h
  cases segment with
  | literal s => cases hn
  | parameter name =>
    cases hn
    rw [fill, heval]
    rfl
  | choice test yes no =>
    cases hn
    rw [fill, heval]
    rfl

/-- If all parameters were given, segments become their texts. -/
theorem fillAll_of_given {segments : List Segment}
    (h : ∀ n ∈ mentions segments, Entries.get? n params = some (value n)) :
    fillAll params segments = .ok (Text.concat (segments.map (written value))) := by
  induction segments with
  | nil => rfl
  | cons segment rest ih =>
    rw [mentions_cons] at h
    have hsegment : segment.fill params = .ok (segment.written value) :=
      fill_of_given fun n hn => h n (List.mem_append_left _ (Option.mem_toList.mpr hn))
    have hrest := ih fun n hn => h n (List.mem_append_right _ hn)
    rw [fillAll, hsegment, hrest]
    rfl

/-- Otherwise the failure is the first parameter that was not given. -/
theorem fillAll_of_missing {segments : List Segment} {n : String}
    (h : firstMissing? params segments = some n) :
    fillAll params segments = .error (.undefinedParameter n) := by
  induction segments with
  | nil => cases h
  | cons segment rest ih =>
    rw [fillAll]
    rw [firstMissing?, mentions_cons, List.find?_append] at h
    cases hm : segment.mention? with
    | none =>
      rw [hm] at h
      -- What the values are does not matter for a segment that asks for none.
      have hsegment : segment.fill params = .ok (segment.written fun _ => .null) :=
        fill_of_given (by simp [hm])
      rw [hsegment, ih h]
      rfl
    | some m =>
      rw [hm, Option.toList_some, List.find?_singleton] at h
      cases hv : Entries.get? m params with
      | none =>
        obtain rfl : m = n := by simpa [hv] using h
        rw [fill_of_missing hm hv]
        rfl
      | some v =>
        have hrest : firstMissing? params rest = some n := by
          rw [firstMissing?]
          simpa [hv] using h
        have hsegment : segment.fill params = .ok (segment.written fun _ => v) :=
          fill_of_given (by simp [hm, hv])
        rw [hsegment, ih hrest]
        rfl

theorem exists_fillAll_eq_ok {segments : List Segment}
    (h : firstMissing? params segments = none) : ∃ text, fillAll params segments = .ok text := by
  rw [firstMissing?_eq_none_iff] at h
  have hgiven : ∀ n ∈ mentions segments,
      Entries.get? n params = some ((Entries.get? n params).getD .null) := by
    intro n hn
    obtain ⟨v, hv⟩ := Option.isSome_iff_exists.mp (h n hn)
    rw [hv]
    rfl
  exact ⟨_, fillAll_of_given hgiven⟩

theorem fillAll_succeeds_iff {segments : List Segment} :
    (∃ text, fillAll params segments = .ok text) ↔ firstMissing? params segments = none := by
  refine ⟨?_, exists_fillAll_eq_ok⟩
  rintro ⟨text, htext⟩
  cases hmissing : firstMissing? params segments with
  | none => rfl
  | some n =>
    rw [fillAll_of_missing hmissing] at htext
    cases htext

theorem fillAll_eq_error_iff {segments : List Segment} {e : Failure} :
    fillAll params segments = .error e ↔
      ∃ n, firstMissing? params segments = some n ∧ e = .undefinedParameter n := by
  constructor
  · intro h
    cases hmissing : firstMissing? params segments with
    | none =>
      obtain ⟨text, htext⟩ := exists_fillAll_eq_ok hmissing
      rw [htext] at h
      cases h
    | some n =>
      rw [fillAll_of_missing hmissing] at h
      cases h
      exact ⟨n, rfl, rfl⟩
  · rintro ⟨n, hmissing, rfl⟩
    exact fillAll_of_missing hmissing

/-- Only the parameters that are mentioned matter. -/
theorem fillAll_congr {params' : Parameters} {segments : List Segment}
    (h : ∀ n ∈ mentions segments, Entries.get? n params' = Entries.get? n params) :
    fillAll params' segments = fillAll params segments := by
  induction segments with
  | nil => rfl
  | cons segment rest ih =>
    rw [mentions_cons] at h
    have hsegment : segment.fill params' = segment.fill params := by
      cases segment with
      | literal s => rfl
      | parameter name => rw [fill, fill, Term.eval, Term.eval, h name List.mem_cons_self]
      | choice test yes no => rw [fill, fill, Term.eval, Term.eval, h test List.mem_cons_self]
    have hrest := ih fun n hn => h n (List.mem_append_right _ hn)
    rw [fillAll, fillAll, hsegment, hrest]

end Segment

open Segment (sources mentions firstMissing? written fillAll)

/-! ## The segments of a template -/

/-- The text of a template without tags. -/
def literal? : Template → Option String
  | .done => some ""
  | .text s rest => rest.literal?.map (s ++ ·)
  | _ => none

/-- The segments of a template, if it has this form. -/
def segments? : Template → Option (List Segment)
  | .done => some []
  | .text s rest => rest.segments?.map (.literal s :: ·)
  | .output (.name n) rest => rest.segments?.map (.parameter n :: ·)
  | .choice (.name n) yes no rest => do
    let yes ← yes.literal?
    let no ← no.literal?
    rest.segments?.map (.choice n yes no :: ·)
  | _ => none

/-- The segments of a source, none if it has another form. -/
def segmentsOf (source : String) : List Segment :=
  ((ofSource? source).bind segments?).getD []

/-- The source of a template is a row of segments. -/
def isSegmented (source : String) : Bool :=
  match (ofSource? source).bind segments? with
  | some l => sources l = source && l.all Segment.isPlain
  | none => false

theorem render_of_literal? {t : Template} {s : String} (h : t.literal? = some s)
    (params : Parameters) : t.render params = .ok s := by
  induction t generalizing s with
  | done =>
    cases h
    rfl
  | text front rest ih =>
    obtain ⟨back, hback, rfl⟩ := Option.map_eq_some_iff.mp h
    rw [render, ih hback]
    rfl
  | output term rest ih => cases h
  | choice test yes no rest ihy ihn ihr => cases h

/-- **Filling in a template goes segment by segment.** -/
theorem render_of_segments? {t : Template} {l : List Segment} (h : t.segments? = some l)
    (params : Parameters) : t.render params = fillAll params l := by
  induction t generalizing l with
  | done =>
    cases h
    rfl
  | text s rest ih =>
    obtain ⟨back, hback, rfl⟩ := Option.map_eq_some_iff.mp h
    rw [render, ih hback]
    rfl
  | output term rest ih =>
    cases term with
    | name n =>
      obtain ⟨back, hback, rfl⟩ := Option.map_eq_some_iff.mp h
      rw [render, ih hback]
      rfl
    | _ => cases h
  | choice test yes no rest ihy ihn ihr =>
    cases test with
    | name n =>
      obtain ⟨yesText, hyes, h⟩ := Option.bind_eq_some_iff.mp h
      obtain ⟨noText, hno, h⟩ := Option.bind_eq_some_iff.mp h
      obtain ⟨back, hback, rfl⟩ := Option.map_eq_some_iff.mp h
      rw [render, render_of_literal? hyes, render_of_literal? hno, ihr hback, fillAll, Segment.fill]
      cases (Term.name n).eval params with
      | error e => rfl
      | ok v => cases hv : v.isTrue <;> simp [Except.map, hv]
    | _ => cases h

variable {source : String}

theorem segments?_of_isSegmented (h : isSegmented source = true) :
    (ofSource? source).bind segments? = some (segmentsOf source) := by
  rw [isSegmented] at h
  rw [segmentsOf]
  cases hl : (ofSource? source).bind segments? with
  | some l => rfl
  | none =>
    rw [hl] at h
    cases h

theorem sources_segmentsOf (h : isSegmented source = true) :
    sources (segmentsOf source) = source ∧
      ∀ segment ∈ segmentsOf source, segment.isPlain = true := by
  have hl := segments?_of_isSegmented h
  rw [isSegmented, hl] at h
  simpa using h

theorem renderSource_of_isSegmented (h : isSegmented source = true) (params : Parameters) :
    renderSource source params = fillAll params (segmentsOf source) := by
  obtain ⟨t, ht, hsegments⟩ := Option.bind_eq_some_iff.mp (segments?_of_isSegmented h)
  rw [renderSource, ht]
  exact render_of_segments? hsegments params

namespace Catalog

/-- All templates of both engines are rows of segments. The templates for Doris are those for MySQL
and what the changes write. -/
theorem isSegmented_engines {s : Catalog} (hs : s ∈ [mysql, doris])
    {category name source : String} (h : s.source? category name = some source) :
    isSegmented source = true := by
  have hmysql : ∀ t ∈ mysql.templates, isSegmented t.2.2 = true := by
    decide +kernel
  have hdoris : ∀ written ∈ dorisChanges.filterMap Change.source?, isSegmented written = true := by
    decide +kernel
  have hold (hsource : mysql.source? category name = some source) : isSegmented source = true :=
    hmysql (category, name, source) (mem_templates_iff.mpr hsource)
  simp only [List.mem_cons, List.not_mem_nil, or_false] at hs
  rcases hs with rfl | rfl
  · exact hold h
  · rcases source?_of_withChanges h with hsource | hwritten
    · exact hold hsource
    · exact hdoris source (List.mem_filterMap.mpr ⟨_, hwritten, rfl⟩)

/-- **What filling in a template of an engine gives.** The source of the template is a row of
segments. Filling in succeeds exactly if all parameters it mentions are given, and gives the texts of
its segments one after another: what a value is shown as, unchanged, or the text that the truth of a
value selects. It fails exactly with the first parameter in reading order that is missing. Parameters
that are not mentioned do not matter, neither for the result nor for what is noted down. -/
theorem render_verbatim {s : Catalog} (hs : s ∈ [mysql, doris]) {category name source : String}
    (h : s.source? category name = some source) :
    (sources (segmentsOf source) = source ∧
      ∀ segment ∈ segmentsOf source, segment.isPlain = true) ∧
    ∀ params : Parameters,
      ((∃ text, (s.render (.text category) (.text name) params).result = .ok text) ↔
        ∀ n ∈ mentions (segmentsOf source), (Entries.get? n params).isSome = true) ∧
      (∀ value : String → Value,
        (∀ n ∈ mentions (segmentsOf source), Entries.get? n params = some (value n)) →
          (s.render (.text category) (.text name) params).result =
            .ok (Text.concat ((segmentsOf source).map (written value)))) ∧
      (∀ e, (s.render (.text category) (.text name) params).result = .error e ↔
        ∃ n, firstMissing? params (segmentsOf source) = some n ∧ e = .undefinedParameter n) ∧
      ∀ params' : Parameters,
        (∀ n ∈ mentions (segmentsOf source), Entries.get? n params' = Entries.get? n params) →
          s.render (.text category) (.text name) params' =
            s.render (.text category) (.text name) params := by
  have hsegmented := isSegmented_engines hs h
  have hresult (params : Parameters) :
      (s.render (.text category) (.text name) params).result =
        fillAll params (segmentsOf source) := by
    rw [render_result, lookup_of_source? h]
    exact renderSource_of_isSegmented hsegmented params
  refine ⟨sources_segmentsOf hsegmented, fun params => ⟨?_, ?_, ?_, ?_⟩⟩
  · rw [hresult, Segment.fillAll_succeeds_iff, Segment.firstMissing?_eq_none_iff]
  · intro value hvalue
    rw [hresult, Segment.fillAll_of_given hvalue]
  · intro e
    rw [hresult, Segment.fillAll_eq_error_iff]
  · intro params' hagree
    rw [render, render, lookup_of_source? h]
    simp only [renderSource_of_isSegmented hsegmented, Segment.fillAll_congr hagree]

/-- In the order for Doris a value with a tag in it stays as it is, and of two parameters that are
missing the one that is read first is named, `nulls_first`. -/
theorem render_sort_doris :
    doris.source? "expressions" "sort" = some missingAwareSort ∧
      (doris.render (.text "expressions") (.text "sort")
        [("asc", .bool true), ("nulls_first", .int 0),
          ("expr", .text "\x7b\x7b asc \x7d\x7d<")]).result =
        .ok "\x7b\x7b asc \x7d\x7d< IS NULL ASC, \x7b\x7b asc \x7d\x7d< ASC" ∧
      (doris.render (.text "expressions") (.text "sort") [("expr", .text "x")]).result =
        .error (.undefinedParameter "nulls_first") := by
  have hsource : doris.source? "expressions" "sort" = some missingAwareSort := by decide +kernel
  have hrender := (render_verbatim (s := doris) (by simp) hsource).2
  have hsegments : segmentsOf missingAwareSort =
      [.parameter "expr", .literal " IS NULL ", .choice "nulls_first" "DESC" "ASC", .literal ", ",
        .parameter "expr", .literal " ", .choice "asc" "ASC" "DESC"] := by decide +kernel
  rw [hsegments] at hrender
  refine ⟨hsource, ?_, ?_⟩
  · let value : String → Value := fun n =>
      if n = "asc" then .bool true else if n = "expr" then .text "\x7b\x7b asc \x7d\x7d<" else .int 0
    refine (hrender _).2.1 value ?_
    intro n hn
    simp only [mentions, Segment.mention?, List.filterMap_cons, List.filterMap_nil, List.mem_cons,
      List.not_mem_nil, or_false] at hn
    rcases hn with rfl | rfl | rfl | rfl <;> rfl
  · exact ((hrender _).2.2.1 _).mpr ⟨"nulls_first", rfl, rfl⟩

/-- The order for MySQL asks for its parameters in another order. -/
example : (mysql.source? "expressions" "sort").map (fun source => mentions (segmentsOf source)) =
    some ["expr", "asc", "nulls_first"] := by decide +kernel

end Catalog

end SqlDialect.Template
