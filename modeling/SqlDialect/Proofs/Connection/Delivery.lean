import SqlDialect.Proofs.Connection.Layers
import SqlDialect.Proofs.Text.Digits

/-!
# Settings reach the connection

Settings with texts and a whole number for the port pass two ways unchanged. An environment that has
them written out gives them back, the port through its decimal text. And the arguments of a connection
made for them have every field under its name, unless it is empty or zero; on that way the user and the
password change their names, and an empty password is no password, which comes to the same. No text
is taken apart, whatever characters it has.

The options of a URL are its parts that count as true (`get?_given`). Such a URL has no query, so
nothing is converted, and all that is added is the flag of a driver that is there.

Main statement: `settings_delivered`.
-/

namespace SqlDialect.Connection

/-! ## Through an environment -/

namespace Settings

/-- Settings with texts and a number for the port. -/
def plain (host user password database : String) (port : Int) : Settings :=
  ⟨.text host, .int port, .text user, .text password, .text database⟩

variable {host user password database : String} {port : Int}
  {environment : List (String × String)}

/-- An environment that has plain settings written out gives them back. -/
theorem ofEnvironment_written (hdigits : (Text.digits port.natAbs).length ≤ Text.maxDigits)
    (hwritten : ∀ f : Field, Entries.get? f.environmentName environment =
      some ((plain host user password database port).get f).shown) :
    ofEnvironment environment = .ok (plain host user password database port) := by
  refine ofEnvironment_eq_ok_iff.mpr fun f => ?_
  by_cases hport : f = .port
  · subst hport
    have hread : Text.readInteger? (Value.int port).shown = some port :=
      Text.readInteger?_ofInt hdigits
    rw [environmentValue_port_of_some (hwritten .port)]
    simp only [plain, get, hread]
  · -- Every other field is a text, which is shown as it is.
    rw [environmentValue_of_ne_port environment hport, textOf, hwritten f]
    cases f <;> first | rfl | exact absurd rfl hport

end Settings

/-! ## Through a URL -/

namespace Options

/-- The name of the option for flags. -/
def flagName : String := "client_flag"

variable {u : Url} {options : Options}

/-- Adding the entries that count as true, no name coming twice. -/
theorem get?_foldl_addIfTrue {entries : List (String × Value)} (h : (Entries.keys entries).Nodup)
    (options : Options) (key : String) :
    (entries.foldl addIfTrue options).get? key =
      ((Entries.get? key entries).filter Value.isTrue).or (options.get? key) := by
  induction entries generalizing options with
  | nil => rfl
  | cons entry rest ih =>
    obtain ⟨k, v⟩ := entry
    rw [Entries.keys, List.map_cons, List.nodup_cons] at h
    rw [List.foldl_cons, ih h.2]
    by_cases hkey : k = key
    · subst hkey
      -- The name does not come again, so it has what is added now.
      cases hv : v.isTrue <;>
        simp [addIfTrue, hv, Entries.get?, Entries.get?_eq_none_of_notMem h.1, Option.filter]
    · cases hv : v.isTrue <;> simp [addIfTrue, hv, Entries.get?, hkey, Ne.symm hkey]

theorem keys_parts (u : Url) :
    Entries.keys (parts u) = ["host", "database", "user", "password", "port"] := rfl

theorem nodup_parts (u : Url) : (Entries.keys (parts u)).Nodup := by
  rw [keys_parts]
  decide

/-- The options of a URL without a query are its parts that count as true. -/
theorem get?_given (h : u.query = []) (key : String) :
    (given u).get? key = (Entries.get? key (parts u)).filter Value.isTrue := by
  rw [given, h]
  show ((parts u).foldl addIfTrue Keyed.empty).get? key = _
  rw [get?_foldl_addIfTrue (nodup_parts u)]
  exact Option.or_none

/-- The parts of a URL have the names of the fields. -/
theorem exists_field_of_given (h : u.query = []) {key : String}
    (hkey : ((given u).get? key).isSome = true) : ∃ f : Field, f.name = key := by
  obtain ⟨v, hv⟩ := Option.isSome_iff_exists.mp hkey
  rw [get?_given h, Option.filter_eq_some_iff] at hv
  have hmem : key ∈ Entries.keys (parts u) := List.mem_map_of_mem (Entries.mem_of_get? hv.1)
  have hnames : (Entries.keys (parts u)).all Settings.isFieldName = true := by
    rw [keys_parts]
    decide
  exact (Settings.isFieldName_iff key).mp (List.all_eq_true.mp hnames key hmem)

/-! ### Nothing to convert -/

theorem foldlM_convertOption_of_absent {kinds : List (String × Kind)}
    (h : ∀ option ∈ kinds, options.get? option.1 = none) :
    kinds.foldlM convertOption options = .ok options := by
  induction kinds with
  | nil => rfl
  | cons option rest ih =>
    rw [List.foldlM_cons, convertOption, h option List.mem_cons_self]
    exact ih fun other hother => h other (List.mem_cons_of_mem _ hother)

theorem encryptionEntries_of_absent {kinds : List (String × String × Kind)}
    (h : ∀ option ∈ kinds, options.get? option.1 = none) :
    encryptionEntries options kinds = .ok [] := by
  induction kinds with
  | nil => rfl
  | cons option rest ih =>
    obtain ⟨key, name, kind⟩ := option
    have hkey : options.get? key = none := h _ List.mem_cons_self
    rw [encryptionEntries, hkey]
    exact ih fun other hother => h other (List.mem_cons_of_mem _ hother)

/-- Where all options have the names of fields, nothing is converted. -/
theorem convertAll_of_fields
    (h : ∀ key, ((given u).get? key).isSome = true → ∃ f : Field, f.name = key)
    (hasDriver : Bool) :
    convertAll u hasDriver = .ok (if hasDriver then setFoundRows (given u) else given u) := by
  have habsent {key : String} (hkey : Settings.isFieldName key = false) :
      (given u).get? key = none := by
    rw [← Option.not_isSome_iff_eq_none]
    intro hsome
    rw [(Settings.isFieldName_iff key).mpr (h key hsome)] at hkey
    cases hkey
  have hkinds : ∀ option ∈ kinds, (given u).get? option.1 = none := by
    have hnames : ∀ option ∈ kinds, Settings.isFieldName option.1 = false := by decide
    exact fun option hoption => habsent (hnames option hoption)
  have hencryption : ∀ option ∈ encryptionKinds, (given u).get? option.1 = none := by
    have hnames : ∀ option ∈ encryptionKinds, Settings.isFieldName option.1 = false := by decide
    exact fun option hoption => habsent (hnames option hoption)
  rw [convertAll, foldlM_convertOption_of_absent hkinds]
  show (gatherEncryption (given u)).bind _ = _
  rw [gatherEncryption, encryptionEntries_of_absent hencryption]
  rfl

theorem setFoundRows_eq (options : Options) :
    ∃ n, setFoundRows options = options.insert flagName (.int n) := by
  unfold setFoundRows
  split <;> exact ⟨_, rfl⟩

/-- A driver that is there adds its flag and nothing else. -/
theorem get?_setFoundRows {key : String} (h : key ≠ flagName) (options : Options) :
    (setFoundRows options).get? key = options.get? key := by
  obtain ⟨n, hn⟩ := setFoundRows_eq options
  rw [hn, Keyed.get?_insert, if_neg h]

/-- The arguments of a URL without a query are the parts that count as true, but for the flag of a
driver. -/
theorem arguments_of_no_query (h : u.query = []) (hasDriver : Bool) :
    ∃ a, (arguments u hasDriver).result = .ok a ∧ a.positional = [] ∧
      ∀ key, ¬ (hasDriver = true ∧ key = flagName) →
        Entries.get? key a.named = (Entries.get? key (parts u)).filter Value.isTrue := by
  have hall := convertAll_of_fields (fun _ => exists_field_of_given h) hasDriver
  refine ⟨⟨[], (if hasDriver then setFoundRows (given u) else given u).entries⟩, ?_, rfl, ?_⟩
  · rw [arguments, Outcome.mapResult_result, ofUrl, Outcome.bind_result]
    show ((convertAll u hasDriver).bind _).map _ = _
    rw [hall]
    rfl
  · intro key hkey
    rw [← get?_given h key]
    cases hasDriver with
    | false => rfl
    | true => exact get?_setFoundRows (fun hflag => hkey ⟨rfl, hflag⟩) (given u)

end Options

namespace Settings

/-- The URL for plain settings. -/
def plainUrl (host user password database : String) (port : Int) : Url :=
  ⟨Url.defaultDriver, some user, Url.givenPassword (.text password), some host, some port,
    some database, []⟩

theorem ofSettings_plain (host user password database : String) (port : Int) :
    Url.ofSettings (plain host user password database port) =
      .ok (plainUrl host user password database port) := rfl

/-- Each field of plain settings is a part of their URL, if it counts as true. -/
theorem filter_isTrue_parts (host user password database : String) (port : Int) (f : Field) :
    (Entries.get? f.name (Options.parts (plainUrl host user password database port))).filter
        Value.isTrue =
      if ((plain host user password database port).get f).isTrue then
        some ((plain host user password database port).get f)
      else none := by
  cases f with
  | password =>
    cases hgiven : (Value.text password).isTrue with
    | true =>
      have hpart : (plainUrl host user password database port).password = some (.text password) :=
        if_pos hgiven
      show (some _).filter _ = if (Value.text password).isTrue then _ else _
      rw [hpart]
      simp [hgiven, plain, get, Option.filter]
    | false =>
      have hpart : (plainUrl host user password database port).password = none :=
        if_neg (ne_true_of_eq_false hgiven)
      show (some _).filter _ = if (Value.text password).isTrue then _ else _
      rw [hpart, hgiven]
      rfl
  | host => rfl
  | port => rfl
  | user => rfl
  | database => rfl

/-- **Settings are delivered.** Settings with texts and a number for the port come back from an
environment that has them written out, unless the number has too many digits. The arguments of a
connection made for them go by name only; they have each field under its name with its value if that
counts as true, do not have it otherwise, and have nothing else but the flag of a driver. -/
theorem settings_delivered (host user password database : String) (port : Int) :
    (∀ environment : List (String × String),
      (Text.digits port.natAbs).length ≤ Text.maxDigits →
      (∀ f : Field, Entries.get? f.environmentName environment =
        some ((plain host user password database port).get f).shown) →
      ofEnvironment environment = .ok (plain host user password database port)) ∧
    ∃ u, Url.ofSettings (plain host user password database port) = .ok u ∧
      ∀ hasDriver, ∃ a, (Options.arguments u hasDriver).result = .ok a ∧
        a.positional = [] ∧
        (∀ f : Field, Entries.get? f.name a.named =
          if ((plain host user password database port).get f).isTrue then
            some ((plain host user password database port).get f)
          else none) ∧
        ∀ key ∈ Entries.keys a.named,
          (∃ f : Field, f.name = key) ∨ (hasDriver = true ∧ key = Options.flagName) := by
  refine ⟨fun environment => ofEnvironment_written, _,
    ofSettings_plain host user password database port, fun hasDriver => ?_⟩
  have hquery : (plainUrl host user password database port).query = [] := rfl
  obtain ⟨a, hresult, hpositional, hnamed⟩ := Options.arguments_of_no_query hquery hasDriver
  refine ⟨a, hresult, hpositional, fun f => ?_, fun key hkey => ?_⟩
  · have hflag : f.name ≠ Options.flagName := by cases f <;> decide
    rw [hnamed f.name fun h => hflag h.2]
    exact filter_isTrue_parts host user password database port f
  · by_cases hflag : hasDriver = true ∧ key = Options.flagName
    · exact Or.inr hflag
    · refine Or.inl (Options.exists_field_of_given hquery ?_)
      rw [Options.get?_given hquery, ← hnamed key hflag]
      exact Entries.mem_keys_iff.mp hkey

/-- Texts with marks of a URL in them, a port below zero and an empty password come back from an
environment and go to the connection. -/
theorem settings_delivered_with_marks :
    ofEnvironment [("PATH", "/bin"), ("DORIS_PORT", "-12"), ("DORIS_USER", "a:b@c/d?e=%41"),
        ("DORIS_HOST", " h\n"), ("DORIS_PASSWORD", ""), ("DORIS_DATABASE", "%s")] =
      .ok (plain " h\n" "a:b@c/d?e=%41" "" "%s" (-12)) :=
  (settings_delivered " h\n" "a:b@c/d?e=%41" "" "%s" (-12)).1 _ (by decide) fun f => by
    cases f <;> rfl

end Settings

end SqlDialect.Connection
