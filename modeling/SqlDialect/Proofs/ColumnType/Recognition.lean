import SqlDialect.ColumnType.Registered
import SqlDialect.ColumnType.Written
import SqlDialect.Proofs.ColumnType.Created
import SqlDialect.Proofs.ColumnType.FirstWord
import SqlDialect.Proofs.Text.Scan

/-!
# Written types are recognised

The text of a type starts with a word, behind which there may be parameters in brackets and marks.
This word is not always the name of the type: an integer is written `INT`, and a `VARCHAR` without a
length is written as a `STRING`. If the database reports a type by the text that was written for it,
the word in small letters is registered, and what is registered for it makes a type of the same text
from the same parameters.

The one thing that may stand in front of the word is `NATIONAL`, where a text type is asked for with
the national set of characters of the compatible database.

Main statements: `text?_startsWith`, `recognised_of_registered` and `written_types_recognised`.
-/

namespace SqlDialect.ColumnType

/-! ## The word at the start -/

/-- A text starts with a word: what follows, if anything does, cannot belong to the word. -/
def StartsWith (word text : String) : Prop :=
  ∃ rest : List Char, text.toList = word.toList ++ rest ∧ ∀ c ∈ rest.head?, isNameChar c = false

namespace StartsWith

variable {word text longer : String}

theorem refl (word : String) : StartsWith word word :=
  ⟨[], (List.append_nil _).symm, nofun⟩

/-- More may follow if it does not begin like a word. -/
theorem append (h : StartsWith word text) {more : List Char}
    (hlonger : longer.toList = text.toList ++ more)
    (hmore : ∀ c ∈ more.head?, isNameChar c = false) : StartsWith word longer := by
  obtain ⟨rest, htext, hrest⟩ := h
  refine ⟨rest ++ more, by rw [hlonger, htext, List.append_assoc], fun c hc => ?_⟩
  cases rest with
  | nil => exact hmore c hc
  | cons d rest => exact hrest c hc

/-- Parameters stand in brackets. -/
theorem sized (word : String) (sizes : List Value) : StartsWith word (withSizes word sizes) := by
  cases sizes with
  | nil => exact refl word
  | cons v sizes =>
    refine (refl word).append String.toList_append fun c hc => ?_
    rw [Text.concat, String.toList_append] at hc
    cases hc
    decide

/-- Marks stand behind a space. -/
theorem marked (marks : NumberMarks) (h : StartsWith word text) :
    StartsWith word (marks.extend text) := by
  obtain ⟨isUnsigned, hasZeros⟩ := marks
  refine h.append String.toList_append fun c hc => ?_
  have hspace : c = ' ' := by
    cases isUnsigned <;> cases hasZeros <;> cases hc <;> rfl
  rw [hspace]
  decide

/-- A style that is not national stands behind a space. -/
theorem styled {style : TextStyle} (hstyle : style.isNational = false) (h : StartsWith word text) :
    StartsWith word (style.extend text) := by
  have hextend : style.extend text =
      Text.joined " " (text :: (style.charsetPart ++ style.collationPart)) := by
    rw [TextStyle.extend, hstyle, if_neg Bool.false_ne_true]
    rfl
  rw [hextend]
  refine h.append (Text.toList_joined_cons _ _ _) fun c hc => ?_
  rw [Text.joinedTail] at hc
  split at hc
  · cases hc
  · cases hc
    decide

end StartsWith

/-! ## The word of a type -/

/-- Whether `NATIONAL` stands in front of the word of a type, if it has characters. -/
def isNational : ColumnType → Bool
  | .text _ word _ style => word = .nchar || style.isNational
  | _ => false

/-- The word that a text type is written with. -/
def TextWord.written (word : TextWord) (length : Value) : String :=
  match word with
  | .char | .nchar => "CHAR"
  | .varchar | .nvarchar => if isGiven length then "VARCHAR" else "STRING"
  | .text | .ntext | .unbounded => "STRING"
  | .tiny | .medium | .long => word.spelling.upper

/-- The word that a type is written with; there is none for the unknown type. -/
def writtenWord : ColumnType → String
  | .boolean _ => "BOOLEAN"
  | .integer _ word _ _ => word.sql
  | .exact _ word _ _ _ => word.spelling.upper
  | .state word _ _ => word.name
  | .floating _ word _ _ _ => word.spelling.upper
  | .text _ word length _ => word.written length
  | .binary _ word _ => binaryText word
  | .date _ => "DATE"
  | .moment _ _ _ _ => "DATETIME"
  | .time _ _ _ => "TIME"
  | .json _ => "JSON"
  | .bit _ => "BIT"
  | .year _ => "YEAR"
  | .untyped => ""

theorem startsWith_integerText (word : IntegerWord) (width : Value) (marks : NumberMarks) :
    StartsWith word.sql (integerText word width marks) := by
  cases word with
  | medium => exact (StartsWith.sized _ _).marked marks
  | _ => exact .refl _

theorem startsWith_floatingText (word : FloatingWord) (precision scale : Value)
    (marks : NumberMarks) :
    StartsWith word.spelling.upper (floatingText word precision scale marks) := by
  cases word with
  | float => exact .refl _
  | double | real => exact (StartsWith.sized _ _).marked marks

theorem startsWith_textText {word : TextWord} (hword : word ≠ .nchar) (length : Value)
    {style : TextStyle} (hstyle : style.isNational = false) :
    StartsWith (word.written length) (textText word length style) := by
  cases word with
  | char => exact (StartsWith.sized _ _).styled hstyle
  | nchar => exact absurd rfl hword
  | varchar | nvarchar =>
    show StartsWith (if isGiven length then "VARCHAR" else "STRING")
      (if isGiven length then withSize "VARCHAR" length else "STRING")
    split
    · exact .sized _ _
    · exact .refl _
  | text | ntext | unbounded => exact .refl _
  | tiny | medium | long => exact (StartsWith.refl _).styled hstyle

/-- **The text of a type starts with its word**, unless it is national. -/
theorem text?_startsWith {t : ColumnType} {text : String} (htext : t.text? = some text)
    (hnational : t.isNational = false) : StartsWith t.writtenWord text := by
  cases t with
  | integer _ word width marks =>
    cases htext
    exact startsWith_integerText word width marks
  | exact _ word precision scale marks =>
    cases htext
    exact (StartsWith.sized _ _).marked marks
  | floating _ word precision scale marks =>
    cases htext
    exact startsWith_floatingText word precision scale marks
  | text _ word length style =>
    cases htext
    simp only [isNational, Bool.or_eq_false_iff, decide_eq_false_iff_not] at hnational
    exact startsWith_textText hnational.1 length hnational.2
  | moment | time | bit | year =>
    cases htext
    exact .sized _ _
  | boolean | state | binary | date | json =>
    cases htext
    exact .refl _
  | untyped => cases htext

/-! ## Registered words -/

/-- A character whose small letter belongs to names belongs to them itself. -/
theorem isNameChar_of_toLower {c : Char} (h : isNameChar c.toLower = true) :
    isNameChar c = true := by
  by_cases hrange : c.val ≥ 'A'.val ∧ c.val ≤ 'Z'.val
  · have hcapital : c.isUpper = true := decide_eq_true hrange
    show (((c.isUpper || c.isLower) || c.isDigit) || decide (c = '_')) = true
    rw [hcapital]
    rfl
  · have hsame : c.toLower = c := dif_neg hrange
    rwa [hsame] at h

/-- What is registered in small letters is a word. -/
theorem isWord_of_registered {word : List Char} {fullName : String}
    (h : registered? (small word) = some fullName) : IsWord word := by
  have hsome : ∀ entry ∈ registeredNames, entry.1.toList ≠ [] := by decide
  have hnamed : ∀ entry ∈ registeredNames, entry.1.toList.all isNameChar = true := by decide
  obtain ⟨before, after, heq, -⟩ := List.lookup_eq_some_iff.mp h
  have hentry : (small word, fullName) ∈ registeredNames := by
    rw [heq]
    simp
  have hsmall : (small word).toList = word.map Char.toLower := String.toList_ofList
  have hletters := hnamed _ hentry
  rw [hsmall, List.all_map, List.all_eq_true] at hletters
  refine ⟨fun hnil => hsome _ hentry (by rw [hsmall, hnil]; rfl), List.all_eq_true.mpr ?_⟩
  exact fun c hc => isNameChar_of_toLower (hletters c hc)

/-- **A type whose word is registered is recognised**: its text can be taken apart, and its first
word in small letters is what is registered. -/
theorem recognised_of_registered {t : ColumnType} {fullName : String}
    (hword : registered? (small t.writtenWord.toList) = some fullName)
    (hnational : t.isNational = false) :
    ∃ r : Reported, t.text? = some r.text ∧ registered? r.name = some fullName := by
  cases htext : t.text? with
  | none =>
    have huntyped : t.writtenWord = "" := by cases t <;> cases htext; rfl
    rw [huntyped] at hword
    exact absurd hword nofun
  | some text =>
    obtain ⟨rest, heq, hrest⟩ := text?_startsWith htext hnational
    let r : Reported :=
      ⟨[], t.writtenWord.toList, rest, nofun, isWord_of_registered hword, hrest⟩
    have hr : r.text = text := by
      rw [Reported.text, List.nil_append, ← heq, String.ofList_toList]
    exact ⟨r, by rw [hr], hword⟩

/-! ## The types of this database -/

/-- All that is made is written with one word, whatever the parameters, and nothing of it is
national unless that is asked for. -/
def Maker.Writes (maker : Maker) (word : String) : Prop :=
  ∀ p t, maker.make p = .ok t →
    t.writtenWord = word ∧ (t.isNational = true → p.isSet "national" = true)

theorem Maker.Writes.simple {s : Signature} {make : Parameters → ColumnType} {word : String}
    (hword : ∀ p, (make p).writtenWord = word)
    (hnational : ∀ p, (make p).isNational = true → p.isSet "national" = true) :
    (Maker.simple s make).Writes word := by
  intro p t ht
  cases ht
  exact ⟨hword p, hnational p⟩

/-- A type without characters is never national. -/
theorem Maker.Writes.plain {s : Signature} {make : Parameters → ColumnType} {word : String}
    (hword : ∀ p, (make p).writtenWord = word) (hplain : ∀ p, (make p).isNational = false) :
    (Maker.simple s make).Writes word :=
  .simple hword fun p hnational => absurd ((hplain p).symm.trans hnational) Bool.false_ne_true

theorem Maker.Writes.floating (o : Origin) (word : FloatingWord) :
    (checkedFloatingMaker o word).Writes word.spelling.upper := by
  intro p t ht
  change checkedFloating o word _ _ _ = _ at ht
  rw [checkedFloating] at ht
  split at ht
  · cases ht
  · cases ht
    exact ⟨rfl, nofun⟩

/-- What a class makes is written with one word, and the word is registered for the class; only a
`VARCHAR` is written with one of two words. -/
theorem class_cases {entry : String × Maker} (hentry : entry ∈ dorisClasses) :
    (∃ word, entry.2.Writes word ∧ registered? (small word.toList) = some entry.1) ∨
      entry = ("doris.VARCHAR", styledMaker .doris .varchar) := by
  simp only [dorisClasses, List.mem_cons, List.not_mem_nil, or_false] at hentry
  rcases hentry with rfl | rfl | rfl | rfl | rfl | rfl | rfl | rfl | rfl | rfl | rfl | rfl | rfl |
    rfl | rfl | rfl | rfl
  · exact .inl ⟨"BOOLEAN", .plain (fun _ => rfl) fun _ => rfl, rfl⟩
  · exact .inl ⟨"TINYINT", .plain (fun _ => rfl) fun _ => rfl, rfl⟩
  · exact .inl ⟨"SMALLINT", .plain (fun _ => rfl) fun _ => rfl, rfl⟩
  · exact .inl ⟨"INT", .plain (fun _ => rfl) fun _ => rfl, rfl⟩
  · exact .inl ⟨"BIGINT", .plain (fun _ => rfl) fun _ => rfl, rfl⟩
  · exact .inl ⟨"LARGEINT", .plain (fun _ => rfl) fun _ => rfl, rfl⟩
  · exact .inl ⟨"DECIMAL", .plain (fun _ => rfl) fun _ => rfl, rfl⟩
  · exact .inl ⟨"DOUBLE", .floating _ _, rfl⟩
  · exact .inl ⟨"FLOAT", .floating _ _, rfl⟩
  · exact .inl ⟨"CHAR", .simple (fun _ => rfl) fun _ => id, rfl⟩
  · exact .inr rfl
  · exact .inl ⟨"STRING", .simple (fun _ => rfl) fun _ => id, rfl⟩
  · exact .inl ⟨"DATETIME", .plain (fun _ => rfl) fun _ => rfl, rfl⟩
  · exact .inl ⟨"DATE", .plain (fun _ => rfl) fun _ => rfl, rfl⟩
  · exact .inl ⟨"JSON", .plain (fun _ => rfl) fun _ => rfl, rfl⟩
  · exact .inl ⟨"HLL", .plain (fun _ => rfl) fun _ => rfl, rfl⟩
  · exact .inl ⟨"BITMAP", .plain (fun _ => rfl) fun _ => rfl, rfl⟩

variable {entry : String × Maker} {given : Arguments} {t : ColumnType}

/-- A type is national only if it is asked for by name. -/
theorem isNational_of_create (hentry : entry ∈ dorisClasses) (ht : create entry.1 given = .ok t)
    (hplain : Parameters.isSet given.named "national" = false) : t.isNational = false := by
  obtain ⟨p, hp, hmake⟩ := (create_eq_ok_iff (lookup_classes entry hentry)).mp ht
  have hkeyword : ∀ entry ∈ dorisClasses, "national" ∉ entry.2.signature.positional := by decide
  have hunset : p.isSet "national" = false := by
    rcases get_of_bind hp (hkeyword entry hentry) with hget | hget
    · rw [Parameters.isSet, hget]
      rfl
    · rwa [Parameters.isSet, hget]
  rcases class_cases hentry with ⟨word, hwrites, -⟩ | rfl
  · cases hnational : t.isNational with
    | false => rfl
    | true => exact ((hwrites p t hmake).2 hnational).symm.trans hunset
  · cases hmake
    exact hunset

/-- **Whatever is written for a type, its word is registered**, and what is registered for the word
makes a type of the same text from what the type was created from. -/
theorem recreated (hentry : entry ∈ dorisClasses) (ht : create entry.1 given = .ok t) :
    ∃ fullName u, registered? (small t.writtenWord.toList) = some fullName ∧
      create fullName given = .ok u ∧ u.text? = t.text? := by
  obtain ⟨p, hp, hmake⟩ := (create_eq_ok_iff (lookup_classes entry hentry)).mp ht
  rcases class_cases hentry with ⟨word, hwrites, hword⟩ | rfl
  · rw [← (hwrites p t hmake).1] at hword
    exact ⟨entry.1, t, hword, ht, rfl⟩
  -- With a length a `VARCHAR` is what it is, and without one it is a `STRING`.
  · cases hmake
    by_cases hlength : isGiven (p.get "length")
    · refine ⟨"doris.VARCHAR", _, ?_, ht, rfl⟩
      show registered? (small (String.toList (if isGiven (p.get "length") then _ else _))) = _
      rw [if_pos hlength]
      rfl
    · have hstring : classes.lookup "doris.STRING" = some (styledMaker .doris .unbounded) := rfl
      refine ⟨"doris.STRING", .text .doris .unbounded (p.get "length") (styleOf p), ?_,
        (create_eq_ok_iff hstring).mpr ⟨p, hp, rfl⟩, ?_⟩
      · show registered? (small (String.toList (if isGiven (p.get "length") then _ else _))) = _
        rw [if_neg hlength]
        rfl
      · show some "STRING" = some (if isGiven (p.get "length") then _ else "STRING")
        rw [if_neg hlength]

theorem written_eq_ok_iff {s : String} : t.written = .ok s ↔ t.text? = some s := by
  rw [written, writtenAt]
  cases t.text? <;> simp

/-- A fraction that counts for nothing is not written. -/
theorem withFraction_of_not_isTrue (word : String) {fraction : Value}
    (h : fraction.isTrue = false) : withFraction word fraction = word := by
  rw [withFraction, h, if_neg Bool.false_ne_true]
  rfl

/-- **A written type is recognised.** Whatever a type of this database is created from, as long as
the national set of characters is not asked for, it is written with a first word, and what is
registered for that word makes a type with the same text from the same parameters. All that is
reported with that word has the same general name. A `VARCHAR` without a length is a `STRING` and
comes back as one, and a `DATETIME` with no digits of a second shows none. -/
theorem written_types_recognised (hentry : entry ∈ dorisClasses)
    (ht : create entry.1 given = .ok t)
    (hplain : Parameters.isSet given.named "national" = false) :
    ∃ r : Reported, t.written = .ok r.text ∧
      (∃ fullName u, registered? r.name = some fullName ∧ create fullName given = .ok u ∧
        u.written = .ok r.text) ∧
      (∀ r' : Reported, r'.name = r.name →
        genericValue (.text r'.text) = .ok (.text (familyOf r.name))) ∧
      (∀ style, t = .text .doris .varchar .null style →
        r.text = "STRING" ∧ registered? r.name = some "doris.STRING") ∧
      ∀ fraction hasZone, t = .moment .doris false fraction hasZone → fraction.isTrue = false →
        r.text = "DATETIME" := by
  obtain ⟨fullName, u, hword, hu, hsame⟩ := recreated hentry ht
  obtain ⟨r, hr, hregistered⟩ :=
    recognised_of_registered hword (isNational_of_create hentry ht hplain)
  refine ⟨r, written_eq_ok_iff.mpr hr, ⟨fullName, u, hregistered, hu, ?_⟩, ?_, ?_, ?_⟩
  · rw [written_eq_ok_iff, hsame, hr]
  · intro r' hname
    rw [genericValue_text, genericName_text, hname]
  · rintro style rfl
    refine ⟨(Option.some.inj hr).symm, ?_⟩
    rw [hregistered, ← hword]
    show registered? (small "STRING".toList) = _
    rfl
  · rintro fraction hasZone rfl hzero
    rw [← Option.some.inj hr, withFraction_of_not_isTrue "DATETIME" hzero]

/-- A `VARCHAR` with a collation and without a length comes back as a `STRING`. -/
theorem varchar_without_length_recognised :
    ("doris.VARCHAR", styledMaker .doris .varchar) ∈ dorisClasses ∧
      create "doris.VARCHAR" ⟨[], [("collation", .text "utf8_bin")]⟩ =
        .ok (.text .doris .varchar .null { collation := .text "utf8_bin" }) ∧
      Parameters.isSet [("collation", .text "utf8_bin")] "national" = false ∧
      ∃ r : Reported, r.text = "STRING" ∧ registered? r.name = some "doris.STRING" ∧
        ∃ u, create "doris.STRING" ⟨[], [("collation", .text "utf8_bin")]⟩ = .ok u ∧
          u.written = .ok "STRING" := by
  have hentry : ("doris.VARCHAR", styledMaker .doris .varchar) ∈ dorisClasses := by
    simp [dorisClasses]
  have ht : create "doris.VARCHAR" ⟨[], [("collation", .text "utf8_bin")]⟩ =
      .ok (.text .doris .varchar .null { collation := .text "utf8_bin" }) := rfl
  have hplain : Parameters.isSet [("collation", .text "utf8_bin")] "national" = false := rfl
  obtain ⟨r, -, ⟨fullName, u, hregistered, hu, hsame⟩, -, hvarchar, -⟩ :=
    written_types_recognised hentry ht hplain
  obtain ⟨htext, hstring⟩ := hvarchar _ rfl
  obtain rfl : "doris.STRING" = fullName := Option.some.inj (hstring.symm.trans hregistered)
  exact ⟨hentry, ht, hplain, r, htext, hstring, u, hu, htext ▸ hsame⟩

end SqlDialect.ColumnType
