import Mathlib.Logic.Basic
import SqlDialect.Connection.Session
import SqlDialect.Proofs.Keyed.Writing

/-!
# Settings in layers

A session that is opened without settings takes them from the environment and puts overrides on top.
Each layer has its own way of leaving a field open: the environment by not having the variable, and
overrides by not having the field or by having nothing in it. An empty text is something. What the
environment says of the port is read before any override is looked at, so a port that cannot be read
is found even if it is overridden; and names that no override can have are found before that.

One override on top of settings is `layered_get`. Overrides that come one after the other are the
overrides merged, where the later one counts unless there is nothing in it.

Main statement: `settings_in_layers`.
-/

namespace SqlDialect.Connection

/-! ## Names of fields -/

namespace Field

theorem name_injective {f g : Field} (h : f.name = g.name) : f = g := by
  cases f <;> cases g <;> first | rfl | exact absurd h (by decide)

theorem environmentName_injective {f g : Field} (h : f.environmentName = g.environmentName) :
    f = g := by
  cases f <;> cases g <;> first | rfl | exact absurd h (by decide)

end Field

namespace Settings

theorem isFieldName_iff (key : String) : isFieldName key = true ↔ ∃ f : Field, f.name = key := by
  simp only [isFieldName, List.any_eq_true, beq_iff_eq]
  exact ⟨fun ⟨f, _, h⟩ => ⟨f, h⟩, fun ⟨f, h⟩ => ⟨f, Field.mem_all f, h⟩⟩

/-! ## The environment -/

/-- The value of a field that the environment sets with a text, or leaves alone. -/
def textOf (environment : List (String × String)) (f : Field) : Value :=
  ((Entries.get? f.environmentName environment).map Value.text).getD f.default

/-- The environment has a text for the port that is no number. -/
def HasFaultyPort (environment : List (String × String)) (text : String) : Prop :=
  Entries.get? Field.port.environmentName environment = some text ∧ Text.readInteger? text = none

variable {environment : List (String × String)} {f : Field} {s : Settings}

/-- Every field but the port is taken as it is. -/
theorem environmentValue_of_ne_port (environment : List (String × String)) (h : f ≠ .port) :
    environmentValue environment f = .ok (textOf environment f) := by
  unfold environmentValue textOf
  cases Entries.get? f.environmentName environment with
  | none => rfl
  | some text =>
    cases f with
    | port => exact absurd rfl h
    | host => rfl
    | user => rfl
    | password => rfl
    | database => rfl

theorem environmentValue_port_of_none
    (h : Entries.get? Field.port.environmentName environment = none) :
    environmentValue environment .port = .ok Field.port.default := by
  simp only [environmentValue, h]

theorem environmentValue_port_of_some {text : String}
    (h : Entries.get? Field.port.environmentName environment = some text) :
    environmentValue environment .port =
      match Text.readInteger? text with
      | some n => .ok (.int n)
      | none => .error (.notInteger text) := by
  cases hread : Text.readInteger? text with
  | some n => simp only [environmentValue, h, hread]
  | none => simp only [environmentValue, h, hread]

/-- Only the text for the port can be faulty. -/
theorem environmentValue_port_eq_error_iff {e : Failure} :
    environmentValue environment .port = .error e ↔
      ∃ text, HasFaultyPort environment text ∧ e = .notInteger text := by
  cases h : Entries.get? Field.port.environmentName environment with
  | none => simp [environmentValue_port_of_none h, HasFaultyPort, h]
  | some text =>
    rw [environmentValue_port_of_some h]
    cases hread : Text.readInteger? text with
    | none =>
      constructor
      · rintro ⟨⟩
        exact ⟨text, ⟨h, hread⟩, rfl⟩
      · rintro ⟨other, ⟨hother, -⟩, rfl⟩
        rw [Option.some.inj (hother.symm.trans h)]
    | some n => simp [HasFaultyPort, h, hread]

theorem ofEnvironment_eq (environment : List (String × String)) :
    ofEnvironment environment = (environmentValue environment .port).map fun port =>
      ⟨textOf environment .host, port, textOf environment .user, textOf environment .password,
        textOf environment .database⟩ := by
  rw [ofEnvironment, environmentValue_of_ne_port environment (by decide : Field.host ≠ .port),
    environmentValue_of_ne_port environment (by decide : Field.user ≠ .port),
    environmentValue_of_ne_port environment (by decide : Field.password ≠ .port),
    environmentValue_of_ne_port environment (by decide : Field.database ≠ .port)]
  cases environmentValue environment .port <;> rfl

/-- The settings of an environment have in each field what the environment says of it. -/
theorem ofEnvironment_eq_ok_iff :
    ofEnvironment environment = .ok s ↔ ∀ f, environmentValue environment f = .ok (s.get f) := by
  constructor
  · intro h f
    rw [ofEnvironment_eq] at h
    cases hport : environmentValue environment .port with
    | error e =>
      rw [hport] at h
      cases h
    | ok port =>
      rw [hport] at h
      cases h
      by_cases hf : f = .port
      · rw [hf, hport]
        rfl
      · rw [environmentValue_of_ne_port environment hf]
        cases f <;> first | rfl | exact absurd rfl hf
  · intro h
    have htext {f : Field} (hf : f ≠ .port) : textOf environment f = s.get f := by
      have hvalue := h f
      rw [environmentValue_of_ne_port environment hf] at hvalue
      exact Except.ok.inj hvalue
    rw [ofEnvironment_eq, h .port, htext (by decide), htext (by decide), htext (by decide),
      htext (by decide)]
    rfl

theorem ofEnvironment_eq_error_iff {e : Failure} :
    ofEnvironment environment = .error e ↔
      ∃ text, HasFaultyPort environment text ∧ e = .notInteger text := by
  rw [← environmentValue_port_eq_error_iff, ofEnvironment_eq]
  cases environmentValue environment .port <;> simp [Except.map]

/-! ## One layer of overrides -/

theorem isGiven_iff (v : Value) : isGiven v = true ↔ v ≠ .null := by
  cases v <;> simp [isGiven]

/-- Overrides leave a field open: they do not have it, or there is nothing in it. -/
def LeavesOpen (overrides : Keyed Value) (f : Field) : Prop :=
  overrides.get? f.name = none ∨ overrides.get? f.name = some .null

/-- An override with something in it names no field. -/
def NamesNoField (overrides : Keyed Value) : Prop :=
  ∃ key v, overrides.get? key = some v ∧ v ≠ .null ∧ ∀ f : Field, f.name ≠ key

/-- The value that overrides have for a field, if they do not leave it open. -/
def overriding (overrides : Keyed Value) (key : String) : Option Value :=
  (overrides.get? key).filter isGiven

/-- Settings under a layer of overrides. -/
def layered (s : Settings) (overrides : Keyed Value) : Settings :=
  ofFields fun f => (overriding overrides f.name).getD (s.get f)

variable {overrides : Keyed Value}

/-- What is under a layer shows in the fields that the layer leaves open. -/
theorem layered_get (s : Settings) (overrides : Keyed Value) (f : Field) :
    (s.layered overrides).get f = (overriding overrides f.name).getD (s.get f) :=
  get_ofFields _ f

theorem overriding_of_leavesOpen (h : LeavesOpen overrides f) :
    overriding overrides f.name = none := by
  rcases h with h | h <;> rw [overriding, h] <;> rfl

theorem overriding_of_given {key : String} {v : Value} (h : overrides.get? key = some v)
    (hv : v ≠ .null) : overriding overrides key = some v := by
  rw [overriding, h, Option.filter, if_pos ((isGiven_iff v).mpr hv)]

theorem withOverrides_eq (s : Settings) (overrides : Keyed Value) :
    s.withOverrides overrides.entries =
      if overrides.entries.all isAcceptable then .ok (s.layered overrides)
      else .error .wrongType := by
  have hfound (key : String) :
      Entries.get? key (given overrides.entries) = overriding overrides key :=
    Entries.get?_filter overrides.nodup _ key
  simp only [withOverrides, hfound]
  rfl

theorem overriding_isSome_iff {key : String} :
    (overriding overrides key).isSome = true ↔ ∃ v, overrides.get? key = some v ∧ v ≠ .null := by
  rw [Option.isSome_iff_exists, overriding]
  simp only [Option.filter_eq_some_iff, isGiven_iff]

/-- An override can be taken if it is not called what the settings are called, and has nothing in it
or names a field. -/
theorem isAcceptable_iff (key : String) (v : Value) :
    isAcceptable (key, v) = true ↔ key ≠ ownName ∧ (v ≠ .null → ∃ f : Field, f.name = key) := by
  rw [isAcceptable, Bool.and_eq_true, bne_iff_ne, Bool.or_eq_true, Bool.not_eq_true',
    isFieldName_iff, ← isGiven_iff, ← Bool.not_eq_true, ← imp_iff_not_or]

theorem all_isAcceptable_iff (overrides : Keyed Value) :
    overrides.entries.all isAcceptable = true ↔
      ownName ∉ overrides.keys ∧
        ∀ key, (overriding overrides key).isSome = true → ∃ f : Field, f.name = key := by
  have hentry (key : String) (v : Value) :
      (key, v) ∈ overrides.entries ↔ overrides.get? key = some v :=
    (Entries.get?_eq_some_iff overrides.nodup).symm
  simp only [List.all_eq_true, Prod.forall, hentry, isAcceptable_iff, overriding_isSome_iff]
  constructor
  · intro h
    refine ⟨fun hmem => ?_, fun key ⟨v, hv, hsomething⟩ => (h key v hv).2 hsomething⟩
    obtain ⟨v, hv⟩ := Option.isSome_iff_exists.mp (Keyed.mem_keys_iff.mp hmem)
    exact (h ownName v hv).1 rfl
  · rintro ⟨hown, hfield⟩ key v hv
    refine ⟨?_, fun hsomething => hfield key ⟨v, hv, hsomething⟩⟩
    rintro rfl
    exact hown (Keyed.mem_keys_iff.mpr (by rw [hv]; rfl))

theorem not_namesNoField_iff (overrides : Keyed Value) :
    ¬ NamesNoField overrides ↔
      ∀ key, (overriding overrides key).isSome = true → ∃ f : Field, f.name = key := by
  simp only [NamesNoField, overriding_isSome_iff, not_exists, not_and, not_forall, not_not]
  exact forall_congr' fun key => ⟨fun h ⟨v, hv, hsomething⟩ => h v hv hsomething,
    fun h v hv hsomething => h ⟨v, hv, hsomething⟩⟩

/-! ## Two layers of overrides -/

/-- What two layers have for a key that the upper one has. -/
def upper (below : Option Value) (v : Value) : Value :=
  if isGiven v then v else below.getD .null

/-- Two layers of overrides in one: all keys of both, where the upper layer counts unless there is
nothing in it. -/
def merged (below above : Keyed Value) : Keyed Value :=
  below.insertAll (above.entries.map fun override =>
    (override.1, upper (below.get? override.1) override.2))

theorem get?_merged (below above : Keyed Value) (key : String) :
    (merged below above).get? key =
      ((above.get? key).map (upper (below.get? key))).or (below.get? key) := by
  have hnodup : (Entries.keys (above.entries.map fun override =>
      (override.1, upper (below.get? override.1) override.2))).Nodup := by
    have hkeys := above.nodup
    rw [Entries.keys] at hkeys ⊢
    rwa [List.map_map]
  rw [merged, Keyed.get?_insertAll_of_nodup hnodup,
    Entries.get?_map fun key v => upper (below.get? key) v]
  rfl

/-- What two layers have for a key comes from the upper one, or else from the lower one. -/
theorem overriding_merged (below above : Keyed Value) (key : String) :
    overriding (merged below above) key = (overriding above key).or (overriding below key) := by
  rw [overriding, get?_merged, overriding, overriding]
  cases above.get? key with
  | none => rfl
  | some v =>
    cases hv : isGiven v with
    | true => simp [upper, hv, Option.filter]
    | false =>
      -- What is below shows, or nothing does, as the lower layer alone would have it.
      cases below.get? key with
      | none => simp [upper, hv, Option.filter, show isGiven .null = false from rfl]
      | some w => simp [upper, hv, Option.filter]

theorem layered_layered (s : Settings) (below above : Keyed Value) :
    (s.layered below).layered above = s.layered (merged below above) := by
  refine congrArg ofFields (funext fun f => ?_)
  rw [layered_get, overriding_merged]
  cases overriding above f.name <;> rfl

theorem mem_keys_merged {below above : Keyed Value} {key : String} :
    key ∈ (merged below above).keys ↔ key ∈ above.keys ∨ key ∈ below.keys := by
  rw [Keyed.mem_keys_iff, Keyed.mem_keys_iff, Keyed.mem_keys_iff, get?_merged, Option.isSome_or,
    Option.isSome_map, Bool.or_eq_true]

/-- Two layers can be taken exactly if each of them can. -/
theorem all_isAcceptable_merged (below above : Keyed Value) :
    (merged below above).entries.all isAcceptable = true ↔
      below.entries.all isAcceptable = true ∧ above.entries.all isAcceptable = true := by
  rw [all_isAcceptable_iff, all_isAcceptable_iff, all_isAcceptable_iff, mem_keys_merged, not_or]
  simp only [overriding_merged, Option.isSome_or, Bool.or_eq_true, or_imp, forall_and]
  constructor
  · rintro ⟨⟨habove, hbelow⟩, hfields, hfields'⟩
    exact ⟨⟨hbelow, hfields'⟩, habove, hfields⟩
  · rintro ⟨⟨hbelow, hfields'⟩, habove, hfields⟩
    exact ⟨⟨habove, hbelow⟩, hfields, hfields'⟩

/-- **Layers merge.** Overrides one after the other are the overrides merged, with the same result or
failure. -/
theorem withOverrides_withOverrides (s : Settings) (below above : Keyed Value) :
    ((s.withOverrides below.entries).bind fun t => t.withOverrides above.entries) =
      s.withOverrides (merged below above).entries := by
  have hmerged := all_isAcceptable_merged below above
  rw [withOverrides_eq, withOverrides_eq s (merged below above)]
  cases hbelow : below.entries.all isAcceptable with
  | false =>
    rw [if_neg fun h => Bool.false_ne_true (hbelow.symm.trans (hmerged.mp h).1)]
    rfl
  | true =>
    show (s.layered below).withOverrides above.entries = _
    rw [withOverrides_eq, layered_layered]
    cases habove : above.entries.all isAcceptable with
    | false =>
      rw [if_neg fun h => Bool.false_ne_true (habove.symm.trans (hmerged.mp h).2)]
      rfl
    | true => rw [if_pos rfl, if_pos (hmerged.mpr ⟨hbelow, habove⟩)]

/-! ## All layers -/

/-- Settings are those of an environment under overrides. -/
structure IsLayered (environment : List (String × String)) (overrides : Keyed Value)
    (s : Settings) : Prop where
  /-- An override with something in it counts. -/
  override : ∀ f v, overrides.get? f.name = some v → v ≠ .null → s.get f = v
  /-- Below it counts the text of the environment, even if it is empty. -/
  text : ∀ f text, f ≠ .port → LeavesOpen overrides f →
    Entries.get? f.environmentName environment = some text → s.get f = .text text
  /-- For the port it is the number that the text stands for. -/
  port : ∀ text, LeavesOpen overrides .port →
    Entries.get? Field.port.environmentName environment = some text →
      ∃ n, Text.readInteger? text = some n ∧ s.port = .int n
  /-- Below that is the default. -/
  default : ∀ f, LeavesOpen overrides f →
    Entries.get? f.environmentName environment = none → s.get f = f.default

theorem isLayered_layered (h : ofEnvironment environment = .ok s) :
    IsLayered environment overrides (s.layered overrides) := by
  have hvalue := ofEnvironment_eq_ok_iff.mp h
  have hopen {f : Field} (hf : LeavesOpen overrides f) :
      environmentValue environment f = .ok ((s.layered overrides).get f) := by
    rw [layered_get, overriding_of_leavesOpen hf]
    exact hvalue f
  refine ⟨?_, ?_, ?_, ?_⟩
  · intro f v hv hsomething
    rw [layered_get, overriding_of_given hv hsomething]
    rfl
  · intro f text hport hf htext
    have hget := hopen hf
    rw [environmentValue_of_ne_port environment hport, textOf, htext] at hget
    exact (Except.ok.inj hget).symm
  · intro text hf htext
    have hget := hopen hf
    rw [environmentValue_port_of_some htext] at hget
    cases hread : Text.readInteger? text with
    | none =>
      rw [hread] at hget
      cases hget
    | some n =>
      rw [hread] at hget
      exact ⟨n, rfl, (Except.ok.inj hget).symm⟩
  · intro f hf hnone
    have hget := hopen hf
    by_cases hport : f = .port
    · subst hport
      rw [environmentValue_port_of_none hnone] at hget
      exact (Except.ok.inj hget).symm
    · rw [environmentValue_of_ne_port environment hport, textOf, hnone] at hget
      exact (Except.ok.inj hget).symm

end Settings

namespace Session

open Settings

/-- An override has a name that no override can have. -/
def NamesOwn (hasEngine : Bool) (overrides : Keyed Value) : Prop :=
  ∃ key ∈ overrides.keys, key ∈ ownNames hasEngine

theorem any_ownNames_iff (hasEngine : Bool) (overrides : Keyed Value) :
    (overrides.entries.any fun override => (ownNames hasEngine).contains override.1) = true ↔
      NamesOwn hasEngine overrides := by
  simp only [List.any_eq_true, List.contains_iff_mem, NamesOwn, Keyed.keys, Entries.keys,
    List.mem_map]
  exact ⟨fun ⟨override, hmem, h⟩ => ⟨override.1, ⟨override, hmem, rfl⟩, h⟩,
    fun ⟨_, ⟨override, hmem, hkey⟩, h⟩ => ⟨override, hmem, hkey ▸ h⟩⟩

theorem openOver_result (given : Option Settings) (environment : List (String × String))
    (overrides : List (String × Value)) :
    (openOver given environment overrides).result = settings true given environment overrides := by
  rw [openOver, Outcome.bind_result, Outcome.silent]
  cases settings true given environment overrides <;> rfl

/-- The settings below all overrides. -/
def ground (given : Option Settings) (environment : List (String × String)) :
    Except Failure Settings :=
  match given with
  | some s => .ok s
  | none => ofEnvironment environment

/-- A session is opened by overriding what is below, unless an override has a name that it cannot
have. -/
theorem settings_eq (hasEngine : Bool) (given : Option Settings)
    (environment : List (String × String)) (overrides : List (String × Value)) :
    settings hasEngine given environment overrides =
      if overrides.any fun override => (ownNames hasEngine).contains override.1 then
        .error .wrongType
      else (ground given environment).bind fun s => s.withOverrides overrides := by
  unfold settings ground
  cases given with
  | some s => rfl
  | none => cases ofEnvironment environment <;> rfl

theorem ownName_notMem {overrides : Keyed Value} (h : ¬ NamesOwn true overrides) :
    Settings.ownName ∉ overrides.keys :=
  fun hmem => h ⟨_, hmem, by simp [ownNames]⟩

/-- What can come of opening a session without settings. -/
theorem settings_cases (environment : List (String × String)) (overrides : Keyed Value) :
    (NamesOwn true overrides ∧
        settings true none environment overrides.entries = .error .wrongType) ∨
      (¬ NamesOwn true overrides ∧ ∃ text, HasFaultyPort environment text ∧
        settings true none environment overrides.entries = .error (.notInteger text)) ∨
      (¬ NamesOwn true overrides ∧ (∀ text, ¬ HasFaultyPort environment text) ∧
        NamesNoField overrides ∧
        settings true none environment overrides.entries = .error .wrongType) ∨
      (¬ NamesOwn true overrides ∧ (∀ text, ¬ HasFaultyPort environment text) ∧
        ¬ NamesNoField overrides ∧
        ∃ s, settings true none environment overrides.entries = .ok s ∧
          IsLayered environment overrides s) := by
  by_cases hown : NamesOwn true overrides
  · exact Or.inl ⟨hown, by rw [settings_eq, if_pos ((any_ownNames_iff true overrides).mpr hown)]⟩
  · have heq : settings true none environment overrides.entries =
        (ofEnvironment environment).bind fun s => s.withOverrides overrides.entries := by
      rw [settings_eq, if_neg fun h => hown ((any_ownNames_iff true overrides).mp h), ground]
    cases hread : ofEnvironment environment with
    | error e =>
      obtain ⟨text, hfaulty, rfl⟩ := ofEnvironment_eq_error_iff.mp hread
      exact Or.inr (Or.inl ⟨hown, text, hfaulty, by rw [heq, hread]; rfl⟩)
    | ok s =>
      have hport (text : String) : ¬ HasFaultyPort environment text := by
        intro hfaulty
        have herror := ofEnvironment_eq_error_iff.mpr ⟨text, hfaulty, rfl⟩
        rw [hread] at herror
        cases herror
      have hresult : settings true none environment overrides.entries =
          s.withOverrides overrides.entries := by
        rw [heq, hread]
        rfl
      rw [withOverrides_eq] at hresult
      have hall : overrides.entries.all isAcceptable = true ↔ ¬ NamesNoField overrides := by
        rw [all_isAcceptable_iff, not_namesNoField_iff]
        exact and_iff_right (ownName_notMem hown)
      by_cases hno : NamesNoField overrides
      · rw [if_neg fun h => hall.mp h hno] at hresult
        exact Or.inr (Or.inr (Or.inl ⟨hown, hport, hno, hresult⟩))
      · rw [if_pos (hall.mpr hno)] at hresult
        exact Or.inr (Or.inr (Or.inr ⟨hown, hport, hno, _, hresult, isLayered_layered hread⟩))

/-- **Settings come in layers.** A session that is opened without settings has in each field the
override, else what the environment says, else the default; it is refused for the port exactly if
the environment has a faulty one, overridden or not, and otherwise for an override exactly if one with
something in it names no field. The names that no override can have come before all that. And
overrides one after the other are the overrides merged. -/
theorem settings_in_layers :
    (∀ (environment : List (String × String)) (overrides : Keyed Value),
      ((∃ s, (openOver none environment overrides.entries).result = .ok s ∧
          IsLayered environment overrides s) ↔
        ¬ NamesOwn true overrides ∧ (∀ text, ¬ HasFaultyPort environment text) ∧
          ¬ NamesNoField overrides) ∧
      (∀ text, (openOver none environment overrides.entries).result = .error (.notInteger text) ↔
        ¬ NamesOwn true overrides ∧ HasFaultyPort environment text) ∧
      ((openOver none environment overrides.entries).result = .error .wrongType ↔
        NamesOwn true overrides ∨
          (∀ text, ¬ HasFaultyPort environment text) ∧ NamesNoField overrides)) ∧
    ∀ (s : Settings) (below above : Keyed Value),
      ((s.withOverrides below.entries).bind fun t => t.withOverrides above.entries) =
        s.withOverrides (merged below above).entries := by
  refine ⟨fun environment overrides => ?_, withOverrides_withOverrides⟩
  rw [openOver_result]
  rcases settings_cases environment overrides with
    ⟨hown, hr⟩ | ⟨hown, text, hport, hr⟩ | ⟨hown, hport, hno, hr⟩ | ⟨hown, hport, hno, s, hr, hs⟩
  · simp [hr, hown]
  · have hall : ¬ ∀ text, ¬ HasFaultyPort environment text := fun h => h text hport
    have hsame (other : String) : text = other ↔ HasFaultyPort environment other :=
      ⟨fun h => h ▸ hport, fun h => Option.some.inj (hport.1.symm.trans h.1)⟩
    simp [hr, hown, hall, hsame]
  · simp [hr, hown, hport, hno]
  · simp [hr, hown, hport, hno, hs]

/-- An empty text is something, an override without anything in it is not, and a number may have white
space around it. -/
example :
    (openOver none [("DORIS_HOST", ""), ("DORIS_PORT", " 0_12 ")]
        [("user", .text "u"), ("host", .null), ("cube", .null)]).result =
      .ok ⟨.text "", .int 12, .text "u", .text "", .text "test"⟩ := rfl

/-- An override of what the session itself is called is refused, whether there is something in it or
not, and before the port is read. -/
theorem own_name_refused :
    HasFaultyPort [("DORIS_PORT", "x")] "x" ∧
      (openOver none [("DORIS_PORT", "x")] [("self", .int 1)]).result = .error .wrongType ∧
      (openOver none [] [("self", .null)]).result = .error .wrongType := by
  refine ⟨⟨by decide, by decide⟩, rfl, rfl⟩

end Session

end SqlDialect.Connection
