import SqlDialect.Proofs.Connection.Layers

/-!
# The password is not noted down

A password can come from given settings, from the environment, from an override, from the password
part of a URL, or from the query of a URL. Wherever it comes from, it goes under one name, and what is
noted down leaves that name out. So all that can be seen of two runs that differ only in passwords is
the same: what is noted down, whether they fail and why, and every argument of the connection but the
password itself.

It is shown one run at a time. Each operation without the password at the end is the operation on
what has no password from the start, so that two runs that differ only in passwords come to the same
run. For options this needs that no step on the way looks the password up (`convertAll_withoutPassword`).

Main statements: `ofUrl_withoutPassword`, `onEngine_withoutPassword`, `alone_withoutPassword`, and
`password_not_noted`.
-/

namespace SqlDialect

/-- Two outcomes have noted down the same, and their results agree but for what is hidden. -/
structure Outcome.AgreesBut {α β : Type} (hide : α → β) (x y : Outcome α) : Prop where
  log : x.log = y.log
  result : x.result.map hide = y.result.map hide

theorem Outcome.AgreesBut.of_mapResult {α β : Type} {hide : α → β} {x y : Outcome α}
    (h : x.mapResult hide = y.mapResult hide) : x.AgreesBut hide y :=
  ⟨congrArg (fun o => o.log) h, congrArg (fun o => o.result) h⟩

/-- Arguments without the password. -/
def Arguments.withoutPassword (a : Arguments) : Arguments :=
  ⟨a.positional, Entries.erase "password" a.named⟩

namespace Connection

/-! ## Options -/

/-- A URL without passwords, in its own part and in its query. -/
def Url.withoutPassword (u : Url) : Url :=
  { u with password := none, query := Entries.erase "password" u.query }

namespace Options

variable {key : String} {value : Value}

theorem withoutPassword_insert (h : key ≠ "password") (options : Options) :
    withoutPassword (options.insert key value) = (withoutPassword options).insert key value :=
  Keyed.erase_insert_of_ne h options value

theorem get?_withoutPassword (h : key ≠ "password") (options : Options) :
    (withoutPassword options).get? key = options.get? key := by
  rw [withoutPassword, Keyed.get?_erase, if_neg h]

theorem withoutPassword_foldl_addIfTrue (entries : List (String × Value)) (options : Options) :
    withoutPassword (entries.foldl addIfTrue options) =
      (Entries.erase "password" entries).foldl addIfTrue (withoutPassword options) := by
  induction entries generalizing options with
  | nil => rfl
  | cons entry rest ih =>
    obtain ⟨k, v⟩ := entry
    rw [List.foldl_cons, ih]
    by_cases hkey : k = "password"
    · subst hkey
      rw [Entries.erase_cons_self]
      congr 1
      rw [addIfTrue]
      split
      · exact Keyed.erase_insert_self options "password" v
      · rfl
    · rw [Entries.erase_cons_of_ne hkey, List.foldl_cons]
      congr 1
      rw [addIfTrue, addIfTrue]
      split
      · exact withoutPassword_insert hkey options
      · rfl

/-- The parts of a URL without its password. -/
theorem erase_parts (u : Url) :
    Entries.erase "password" (parts u) = Entries.erase "password" (parts u.withoutPassword) := by
  simp [Entries.erase, parts, Url.withoutPassword]

/-- A password that is missing is not added. -/
theorem foldl_parts_withoutPassword (u : Url) (options : Options) :
    (parts u.withoutPassword).foldl addIfTrue options =
      (Entries.erase "password" (parts u.withoutPassword)).foldl addIfTrue options := by
  simp [Entries.erase, parts, Url.withoutPassword, addIfTrue, Value.isTrue]

theorem given_withoutPassword (u : Url) : given u.withoutPassword = withoutPassword (given u) := by
  have hparts : withoutPassword ((parts u).foldl addIfTrue Keyed.empty) =
      (parts u.withoutPassword).foldl addIfTrue Keyed.empty := by
    rw [withoutPassword_foldl_addIfTrue, erase_parts, foldl_parts_withoutPassword]
    rfl
  rw [given, given, withoutPassword, Keyed.erase_insertAll, ← withoutPassword, hparts]
  rfl

/-! ### Converting -/

/-- Steps that commute with a change of what they work on do so in a sequence. -/
theorem foldlM_map_of_comm {α β : Type} {f : α → β → Except Failure α} {g : α → α} {l : List β}
    (h : ∀ x ∈ l, ∀ a, f (g a) x = (f a x).map g) (a : α) :
    l.foldlM f (g a) = (l.foldlM f a).map g := by
  induction l generalizing a with
  | nil => rfl
  | cons x rest ih =>
    rw [List.foldlM_cons, List.foldlM_cons, h x List.mem_cons_self]
    cases f a x with
    | error e => rfl
    | ok b => exact ih (fun y hy => h y (List.mem_cons_of_mem _ hy)) b

theorem convertOption_withoutPassword {option : String × Kind} (h : option.1 ≠ "password")
    (options : Options) :
    convertOption (withoutPassword options) option =
      (convertOption options option).map withoutPassword := by
  rw [convertOption, convertOption, get?_withoutPassword h]
  cases options.get? option.1 with
  | none => rfl
  | some v =>
    cases hv : convert option.2 v with
    | error e => simp only [hv]; rfl
    | ok w =>
      simp only [hv]
      exact congrArg Except.ok (withoutPassword_insert h options).symm

theorem encryptionEntries_withoutPassword {kinds : List (String × String × Kind)}
    (h : ∀ option ∈ kinds, option.1 ≠ "password") (options : Options) :
    encryptionEntries (withoutPassword options) kinds = encryptionEntries options kinds := by
  induction kinds with
  | nil => rfl
  | cons option rest ih =>
    obtain ⟨key, name, kind⟩ := option
    have hkey : key ≠ "password" := h _ List.mem_cons_self
    rw [encryptionEntries, encryptionEntries, get?_withoutPassword hkey,
      ih fun other hother => h other (List.mem_cons_of_mem _ hother)]

theorem withoutPassword_foldl_erase (kinds : List (String × String × Kind)) (options : Options) :
    withoutPassword (kinds.foldl (fun o option => o.erase option.1) options) =
      kinds.foldl (fun o option => o.erase option.1) (withoutPassword options) := by
  induction kinds generalizing options with
  | nil => rfl
  | cons option rest ih =>
    rw [List.foldl_cons, List.foldl_cons, ih, withoutPassword, withoutPassword, Keyed.erase_comm]

theorem gatherEncryption_withoutPassword (options : Options) :
    gatherEncryption (withoutPassword options) =
      (gatherEncryption options).map withoutPassword := by
  have hkinds : ∀ option ∈ encryptionKinds, option.1 ≠ "password" := by decide
  rw [gatherEncryption, gatherEncryption, encryptionEntries_withoutPassword hkinds]
  cases encryptionEntries options encryptionKinds with
  | error e => rfl
  | ok entries =>
    cases entries with
    | nil => rfl
    | cons entry rest =>
      refine congrArg Except.ok ?_
      rw [withoutPassword_insert (by decide), withoutPassword_foldl_erase]

theorem setFoundRows_withoutPassword (options : Options) :
    setFoundRows (withoutPassword options) = withoutPassword (setFoundRows options) := by
  unfold setFoundRows
  rw [get?_withoutPassword (by decide)]
  split <;> exact (withoutPassword_insert (by decide) options).symm

/-- **No step looks the password up.** The options of a URL without the password are those of the URL,
without the password. -/
theorem convertAll_withoutPassword (u : Url) (hasDriver : Bool) :
    convertAll u.withoutPassword hasDriver = (convertAll u hasDriver).map withoutPassword := by
  have hkinds : ∀ option ∈ kinds, option.1 ≠ "password" := by decide
  rw [convertAll, convertAll, given_withoutPassword, foldlM_map_of_comm fun option hoption =>
    convertOption_withoutPassword (hkinds option hoption)]
  cases kinds.foldlM convertOption (given u) with
  | error e => rfl
  | ok options =>
    show (gatherEncryption (withoutPassword options)).bind _ =
      ((gatherEncryption options).bind _).map _
    rw [gatherEncryption_withoutPassword]
    cases gatherEncryption options with
    | error e => rfl
    | ok gathered =>
      cases hasDriver with
      | false => rfl
      | true => exact congrArg Except.ok (setFoundRows_withoutPassword gathered)

/-- What is noted down of a URL has no password, so it is what is noted down without one. -/
theorem ofUrl_withoutPassword (u : Url) (hasDriver : Bool) :
    ofUrl u.withoutPassword hasDriver = (ofUrl u hasDriver).mapResult withoutPassword := by
  rw [ofUrl, ofUrl, convertAll_withoutPassword, Outcome.silent, Outcome.silent]
  cases convertAll u hasDriver with
  | error e => rfl
  | ok options =>
    have htwice : withoutPassword (withoutPassword options) = withoutPassword options :=
      Keyed.erase_erase_self options "password"
    simp only [Except.map, Outcome.bind, Outcome.note, Outcome.ok, Outcome.mapResult, htwice]

theorem arguments_withoutPassword (u : Url) (hasDriver : Bool) :
    arguments u.withoutPassword hasDriver =
      (arguments u hasDriver).mapResult Arguments.withoutPassword := by
  rw [arguments, ofUrl_withoutPassword, arguments, Outcome.mapResult_mapResult,
    Outcome.mapResult_mapResult]
  rfl

end Options

/-! ## Settings -/

namespace Settings

/-- Settings without the password. -/
def withoutPassword (s : Settings) : Settings :=
  ofFields fun f => if f = .password then .null else s.get f

theorem withoutPassword_eq_iff {s t : Settings} :
    s.withoutPassword = t.withoutPassword ↔ ∀ f ≠ Field.password, s.get f = t.get f := by
  constructor
  · intro h f hf
    have hget := congrArg (fun s => s.get f) h
    simpa only [withoutPassword, get_ofFields, if_neg hf] using hget
  · intro h
    refine congrArg ofFields (funext fun f => ?_)
    by_cases hf : f = .password
    · rw [if_pos hf, if_pos hf]
    · rw [if_neg hf, if_neg hf, h f hf]

/-- Environments that differ only in the variable for the password give settings that differ only in
the password. -/
theorem ofEnvironment_withoutPassword {environment other : List (String × String)}
    (h : ∀ name ≠ Field.password.environmentName,
      Entries.get? name environment = Entries.get? name other) :
    (ofEnvironment environment).map withoutPassword =
      (ofEnvironment other).map withoutPassword := by
  have hport : environmentValue environment .port = environmentValue other .port := by
    have hname : Field.port.environmentName ≠ Field.password.environmentName := by decide
    simp only [environmentValue, h _ hname]
  have htext {f : Field} (hf : f ≠ .password) : textOf environment f = textOf other f := by
    rw [textOf, textOf, h _ fun hname => hf (Field.environmentName_injective hname)]
  rw [ofEnvironment_eq, ofEnvironment_eq, hport]
  cases environmentValue other .port with
  | error e => rfl
  | ok port =>
    refine congrArg Except.ok (withoutPassword_eq_iff.mpr fun f hf => ?_)
    cases f with
    | password => exact absurd rfl hf
    | port => rfl
    | host => exact htext hf
    | user => exact htext hf
    | database => exact htext hf

/-- Overrides that differ only in the password make, of settings that do, settings that do. -/
theorem withOverrides_withoutPassword {s t : Settings} {overrides others : Keyed Value}
    (hs : s.withoutPassword = t.withoutPassword)
    (h : ∀ key ≠ Field.password.name, overrides.get? key = others.get? key) :
    (s.withOverrides overrides.entries).map withoutPassword =
      (t.withOverrides others.entries).map withoutPassword := by
  have hmem {key : String} (hkey : key ≠ Field.password.name) :
      key ∈ overrides.keys ↔ key ∈ others.keys := by
    rw [Keyed.mem_keys_iff, Keyed.mem_keys_iff, h key hkey]
  have hover {key : String} (hkey : key ≠ Field.password.name) :
      overriding overrides key = overriding others key := by
    rw [overriding, overriding, h key hkey]
  have hall : overrides.entries.all isAcceptable = others.entries.all isAcceptable := by
    rw [Bool.eq_iff_iff, all_isAcceptable_iff, all_isAcceptable_iff,
      hmem (by decide : ownName ≠ Field.password.name)]
    refine and_congr_right fun _ => forall_congr' fun key => ?_
    by_cases hkey : key = Field.password.name
    · -- The password is a field, so an override of it can be taken.
      exact ⟨fun _ _ => ⟨.password, hkey.symm⟩, fun _ _ => ⟨.password, hkey.symm⟩⟩
    · rw [hover hkey]
  rw [withOverrides_eq, withOverrides_eq, hall]
  split
  · refine congrArg Except.ok (withoutPassword_eq_iff.mpr fun f hf => ?_)
    have hname : f.name ≠ Field.password.name := fun hname => hf (Field.name_injective hname)
    rw [layered_get, layered_get, hover hname, withoutPassword_eq_iff.mp hs f hf]
  · rfl

/-- The same for settings that may not be there. -/
theorem bind_withOverrides_withoutPassword {r r' : Except Failure Settings}
    {overrides others : Keyed Value} (hr : r.map withoutPassword = r'.map withoutPassword)
    (h : ∀ key ≠ Field.password.name, overrides.get? key = others.get? key) :
    (r.bind fun s => s.withOverrides overrides.entries).map withoutPassword =
      (r'.bind fun s => s.withOverrides others.entries).map withoutPassword := by
  cases r with
  | error e =>
    cases r' with
    | error e' => exact congrArg Except.error (Except.error.inj hr)
    | ok t => cases hr
  | ok s =>
    cases r' with
    | error e' => cases hr
    | ok t => exact withOverrides_withoutPassword (Except.ok.inj hr) h

theorem ofSettings_withoutPassword (s : Settings) :
    Url.ofSettings s.withoutPassword = (Url.ofSettings s).map Url.withoutPassword := by
  show Url.ofSettings ⟨s.host, s.port, s.user, .null, s.database⟩ = _
  rw [Url.ofSettings, Url.ofSettings]
  cases Url.checkText s.user with
  | error e => rfl
  | ok user =>
    cases Url.checkText s.host with
    | error e => rfl
    | ok host =>
      cases Url.checkPort s.port with
      | error e => rfl
      | ok port => cases Url.checkText s.database <;> rfl

end Settings

/-! ## Sessions -/

/-- What a session is opened with. -/
structure Opening where
  settings : Option Settings
  environment : List (String × String)
  overrides : Keyed Value

namespace Opening

/-- Two openings differ in nothing but passwords, wherever they come from. -/
structure SameButPassword (a b : Opening) : Prop where
  settings : a.settings.map Settings.withoutPassword = b.settings.map Settings.withoutPassword
  environment : ∀ name ≠ Field.password.environmentName,
    Entries.get? name a.environment = Entries.get? name b.environment
  overrides : ∀ key ≠ Field.password.name, a.overrides.get? key = b.overrides.get? key

/-- The settings of the session. -/
def combined (a : Opening) (hasEngine : Bool) : Except Failure Settings :=
  Session.settings hasEngine a.settings a.environment a.overrides.entries

/-- Opens a session over an engine. -/
def onEngine (a : Opening) : Outcome Settings :=
  Session.openOver a.settings a.environment a.overrides.entries

/-- Opens a session over an engine of its own. -/
def alone (a : Opening) : Outcome (Settings × Url) :=
  Session.openNew a.settings a.environment a.overrides.entries

/-- Opens a session over an engine of its own and makes the arguments of a connection for it. -/
def connect (a : Opening) (hasDriver : Bool) : Outcome Arguments :=
  a.alone.bind fun opened => Options.arguments opened.2 hasDriver

/-- What a session with an engine of its own gives, without the password. -/
def hide (opened : Settings × Url) : Settings × Url :=
  (opened.1.withoutPassword, opened.2.withoutPassword)

variable {a b : Opening}

theorem ground_withoutPassword (h : a.SameButPassword b) :
    (Session.ground a.settings a.environment).map Settings.withoutPassword =
      (Session.ground b.settings b.environment).map Settings.withoutPassword := by
  have hsettings := h.settings
  unfold Session.ground
  cases ha : a.settings with
  | some s =>
    cases hb : b.settings with
    | some t =>
      rw [ha, hb] at hsettings
      exact congrArg Except.ok (Option.some.inj hsettings)
    | none =>
      rw [ha, hb] at hsettings
      cases hsettings
  | none =>
    cases hb : b.settings with
    | some t =>
      rw [ha, hb] at hsettings
      cases hsettings
    | none => exact Settings.ofEnvironment_withoutPassword h.environment

theorem combined_withoutPassword (h : a.SameButPassword b) (hasEngine : Bool) :
    (a.combined hasEngine).map Settings.withoutPassword =
      (b.combined hasEngine).map Settings.withoutPassword := by
  -- The names that no override can have do not include that of the password.
  have hown : Session.NamesOwn hasEngine a.overrides ↔ Session.NamesOwn hasEngine b.overrides := by
    refine exists_congr fun key => and_congr_left fun hkey => ?_
    have hne : key ≠ Field.password.name := by
      rintro rfl
      cases hasEngine <;> exact absurd hkey (by decide)
    rw [Keyed.mem_keys_iff, Keyed.mem_keys_iff, h.overrides key hne]
  have hany : (a.overrides.entries.any fun o => (Session.ownNames hasEngine).contains o.1) =
      b.overrides.entries.any fun o => (Session.ownNames hasEngine).contains o.1 := by
    rw [Bool.eq_iff_iff, Session.any_ownNames_iff, Session.any_ownNames_iff, hown]
  rw [combined, combined, Session.settings_eq, Session.settings_eq, hany]
  split
  · rfl
  · exact Settings.bind_withOverrides_withoutPassword (ground_withoutPassword h) h.overrides

/-- Where a session goes is noted down without the password. -/
theorem noteOpened_withoutPassword (s : Settings) :
    Session.noteOpened s.withoutPassword = Session.noteOpened s := rfl

theorem onEngine_withoutPassword (a : Opening) :
    a.onEngine.mapResult Settings.withoutPassword =
      (Outcome.silent ((a.combined true).map Settings.withoutPassword)).bind fun s =>
        (Session.noteOpened s).bind fun _ => .ok s := by
  rw [onEngine, Session.openOver, ← combined, ← Outcome.mapResult_silent, Outcome.bind_mapResult,
    Outcome.mapResult_bind]
  refine congrArg (Outcome.bind _) (funext fun s => ?_)
  rw [noteOpened_withoutPassword, Outcome.mapResult_bind]
  rfl

theorem alone_withoutPassword (a : Opening) :
    a.alone.mapResult hide =
      (Outcome.silent ((a.combined false).map Settings.withoutPassword)).bind fun s =>
        (Outcome.silent (Url.ofSettings s)).bind fun url =>
          (Options.ofUrl url true).bind fun _ =>
            (Session.noteOpened s).bind fun _ => .ok (s, url) := by
  rw [alone, Session.openNew, ← combined, ← Outcome.mapResult_silent, Outcome.bind_mapResult,
    Outcome.mapResult_bind]
  refine congrArg (Outcome.bind _) (funext fun s => ?_)
  rw [Settings.ofSettings_withoutPassword, ← Outcome.mapResult_silent, Outcome.bind_mapResult,
    Outcome.mapResult_bind]
  refine congrArg (Outcome.bind _) (funext fun url => ?_)
  rw [Options.ofUrl_withoutPassword, Outcome.bind_mapResult, Outcome.mapResult_bind,
    noteOpened_withoutPassword]
  rfl

theorem connect_withoutPassword (a : Opening) (hasDriver : Bool) :
    (a.connect hasDriver).mapResult Arguments.withoutPassword =
      (a.alone.mapResult hide).bind fun opened => Options.arguments opened.2 hasDriver := by
  rw [connect, Outcome.mapResult_bind, Outcome.bind_mapResult]
  refine congrArg (Outcome.bind _) (funext fun opened => ?_)
  rw [hide, Options.arguments_withoutPassword]

end Opening

/-- **The password is not noted down.** URLs that differ only in passwords have the same arguments but
for the password, or fail alike, and note down the same; and so do sessions that are opened with what
differs only in passwords, over an engine, over one of their own, and up to the arguments of a
connection for it. -/
theorem password_not_noted :
    (∀ u v : Url, u.withoutPassword = v.withoutPassword → ∀ hasDriver,
      (Options.arguments u hasDriver).AgreesBut Arguments.withoutPassword
        (Options.arguments v hasDriver)) ∧
    ∀ a b : Opening, a.SameButPassword b →
      a.onEngine.AgreesBut Settings.withoutPassword b.onEngine ∧
      a.alone.AgreesBut Opening.hide b.alone ∧
      ∀ hasDriver, (a.connect hasDriver).AgreesBut Arguments.withoutPassword
        (b.connect hasDriver) := by
  refine ⟨fun u v h hasDriver => .of_mapResult ?_, fun a b h => ?_⟩
  · rw [← Options.arguments_withoutPassword, ← Options.arguments_withoutPassword, h]
  · have halone : a.alone.mapResult Opening.hide = b.alone.mapResult Opening.hide := by
      rw [Opening.alone_withoutPassword, Opening.alone_withoutPassword,
        Opening.combined_withoutPassword h]
    refine ⟨.of_mapResult ?_, .of_mapResult halone, fun hasDriver => .of_mapResult ?_⟩
    · rw [Opening.onEngine_withoutPassword, Opening.onEngine_withoutPassword,
        Opening.combined_withoutPassword h]
    · rw [Opening.connect_withoutPassword, Opening.connect_withoutPassword, halone]

/-- A password in a URL, in its query, in the environment and in an override is not noted down, and
that there is one is not either. -/
theorem no_trace_of_four_passwords :
    let u : Url := ⟨"doris+pymysql", some "root", some (.text "p"), some "h", some 9030, some "d",
      [("charset", .text "utf8"), ("password", .text "q")]⟩
    let v : Url := { u with password := none, query := [("charset", .text "utf8")] }
    let a : Opening := ⟨none, [("DORIS_PASSWORD", "r"), ("DORIS_HOST", "h")],
      Keyed.empty.insert "password" (.text "s")⟩
    let b : Opening := ⟨none, [("DORIS_HOST", "h")], Keyed.empty⟩
    (u.withoutPassword = v.withoutPassword ∧ a.SameButPassword b) ∧
      (Options.arguments u true).log = (Options.arguments v true).log ∧
      a.onEngine.log = b.onEngine.log ∧ (a.connect true).log = (b.connect true).log := by
  intro u v a b
  have hurl : u.withoutPassword = v.withoutPassword := rfl
  have hopening : a.SameButPassword b := by
    refine ⟨rfl, fun name hname => ?_, fun key hkey => ?_⟩
    · exact if_neg (Ne.symm hname)
    · exact if_neg (Ne.symm hkey)
  obtain ⟨hover, -, hconnect⟩ := password_not_noted.2 a b hopening
  exact ⟨⟨hurl, hopening⟩, (password_not_noted.1 u v hurl true).log, hover.log, (hconnect true).log⟩

end Connection

end SqlDialect
