import Mathlib.Algebra.Group.Nat.Defs
import SqlDialect.Text.Number

/-!
# The characters of a written number

A number is written with the ten ASCII digits and nothing else, so a written number holds no quote
and no bracket. A number with zeros in front, if it is not too long, is written with exactly the
digits that were asked for; and whether it has zeros in front or not, it is read back as the number.
So is an integer, up to the limit on digits.

Main statements: `isDigit_of_mem_padded`, `toList_padded`, `readNatural?_padded`, `readInteger?_ofInt`,
and `padded_injective`, by which a written number tells the number.
-/

namespace SqlDialect.Text

theorem isDigit_digitChar {d : Nat} (h : d < 10) : (digitChar d).isDigit = true := by
  match d, h with
  | 0, _ | 1, _ | 2, _ | 3, _ | 4, _ | 5, _ | 6, _ | 7, _ | 8, _ | 9, _ => decide

/-- Writing a number puts digits before what is there. -/
theorem isDigit_of_mem_digitsBefore {fuel n : Nat} {tail : List Char}
    (htail : ∀ c ∈ tail, c.isDigit = true) : ∀ c ∈ digitsBefore fuel n tail, c.isDigit = true := by
  induction fuel generalizing n tail with
  | zero => exact htail
  | succ fuel ih =>
    have hcons {d : Nat} (h : d < 10) : ∀ c ∈ digitChar d :: tail, c.isDigit = true := by
      intro c hc
      rcases List.mem_cons.mp hc with rfl | hmem
      · exact isDigit_digitChar h
      · exact htail c hmem
    rw [digitsBefore]
    split
    · next h => exact hcons h
    · exact ih (hcons (Nat.mod_lt n (by decide)))

theorem isDigit_of_mem_digits {n : Nat} : ∀ c ∈ digits n, c.isDigit = true :=
  isDigit_of_mem_digitsBefore (by simp)

/-- A number with zeros in front is written with digits. -/
theorem isDigit_of_mem_padded {width n : Nat} :
    ∀ c ∈ (padded width n).toList, c.isDigit = true := by
  intro c hc
  rw [padded, String.toList_ofList] at hc
  rcases List.mem_append.mp hc with hzero | hdigit
  · rw [List.eq_of_mem_replicate hzero]
    decide
  · exact isDigit_of_mem_digits c hdigit

/-! ## Numbers of known width -/

/-- Enough fuel is as good as any. -/
theorem digitsBefore_eq {fuel n : Nat} (h : n < fuel) (tail : List Char) :
    digitsBefore fuel n tail = digits n ++ tail := by
  induction fuel using Nat.strongRecOn generalizing n tail with
  | ind fuel ih =>
    obtain ⟨fuel, rfl⟩ : ∃ k, fuel = k + 1 := ⟨fuel - 1, by omega⟩
    -- Both sides put the last digit before the tail and have fuel enough for a tenth of the number.
    rw [digits, digitsBefore, digitsBefore]
    by_cases hn : n < 10
    · rw [if_pos hn, if_pos hn]
      rfl
    · rw [if_neg hn, if_neg hn, ih fuel (by omega) (by omega), ih n (by omega) (by omega)]
      simp

/-- The last digit of a number, behind those of a tenth of it. -/
theorem digits_of_ge {n : Nat} (h : 10 ≤ n) :
    digits n = digits (n / 10) ++ [digitChar (n % 10)] := by
  rw [digits, digitsBefore, if_neg (by omega), digitsBefore_eq (by omega)]

/-- The last digits of a number, as many as are wanted. -/
def lastDigits : Nat → Nat → List Char
  | 0, _ => []
  | width + 1, n => lastDigits width (n / 10) ++ [digitChar (n % 10)]

theorem lastDigits_zero (width : Nat) : lastDigits width 0 = List.replicate width '0' := by
  induction width with
  | zero => rfl
  | succ width ih => rw [lastDigits, Nat.zero_div, ih, List.replicate_succ']; rfl

theorem length_lastDigits (width n : Nat) : (lastDigits width n).length = width := by
  induction width generalizing n with
  | zero => rfl
  | succ width ih => rw [lastDigits, List.length_append, ih, List.length_singleton]

/-- A number that is not too long is written with exactly as many digits as are wanted. -/
theorem toList_padded {width n : Nat} (h : n < 10 ^ (width + 1)) :
    (padded (width + 1) n).toList = lastDigits (width + 1) n := by
  rw [padded, String.toList_ofList, lastDigits]
  induction width generalizing n with
  | zero =>
    have hn : n < 10 := by simpa using h
    rw [digits, digitsBefore, if_pos hn, Nat.mod_eq_of_lt hn]
    rfl
  | succ width ih =>
    by_cases hn : n < 10
    · rw [digits, digitsBefore, if_pos hn, Nat.mod_eq_of_lt hn, Nat.div_eq_of_lt hn,
        lastDigits_zero]
      rfl
    · have htenth : n / 10 < 10 ^ (width + 1) := by
        rw [Nat.pow_succ] at h
        omega
      rw [lastDigits, ← ih htenth, digits_of_ge (by omega), List.length_append,
        List.length_singleton, Nat.add_sub_add_right, List.append_assoc]

/-! ## Reading back -/

/-- A digit is read by moving the value so far up by one place. -/
theorem readDigits_digitChar {d : Nat} (h : d < 10) (v : Nat) (rest : List Char) :
    readDigits v (digitChar d :: rest) = readDigits (10 * v + d) rest := by
  have hplain : digitChar d ≠ '_' := by
    intro e
    have hdigit := isDigit_digitChar h
    rw [e] at hdigit
    exact absurd hdigit (by decide)
  rw [readDigits, digitValue_digitChar h]
  · exact fun e => absurd e hplain
  · exact fun _ _ e => absurd e hplain

/-- The digits of a number are read as the number, whatever follows them. -/
theorem readDigits_digits (n : Nat) (rest : List Char) :
    readDigits 0 (digits n ++ rest) = readDigits n rest := by
  induction n using Nat.strongRecOn generalizing rest with
  | ind n ih =>
    by_cases hn : n < 10
    · rw [digits, digitsBefore, if_pos hn, List.singleton_append, readDigits_digitChar hn,
        Nat.mul_zero, Nat.zero_add]
    -- The digits of a tenth of the number come first, and the last digit makes up the rest.
    · rw [digits_of_ge (by omega), List.append_assoc, ih (n / 10) (by omega),
        List.singleton_append, readDigits_digitChar (Nat.mod_lt n (by decide)), Nat.div_add_mod]

/-- Zeros in front do not change what is read. -/
theorem readDigits_padded (width n : Nat) (rest : List Char) :
    readDigits 0 ((padded width n).toList ++ rest) = readDigits n rest := by
  have hzeros (k : Nat) (more : List Char) :
      readDigits 0 (List.replicate k '0' ++ more) = readDigits 0 more := by
    induction k with
    | zero => rfl
    | succ k ih =>
      have hzero : '0' = digitChar 0 := rfl
      rw [List.replicate_succ, List.cons_append, hzero, readDigits_digitChar (by decide)]
      exact ih
  rw [padded, String.toList_ofList, List.append_assoc, hzeros, readDigits_digits]

/-- A number with zeros in front has at least as many digits as were asked for. -/
theorem le_length_padded (width n : Nat) : width ≤ (padded width n).toList.length := by
  rw [padded, String.toList_ofList, List.length_append, List.length_replicate]
  omega

/-- Digits are read from nothing on, if there are any. -/
theorem readNatural?_eq_readDigits {chars : List Char} (hsome : chars ≠ [])
    (hdigits : ∀ c ∈ chars, c.isDigit = true) : readNatural? chars = readDigits 0 chars := by
  cases chars with
  | nil => exact absurd rfl hsome
  | cons c rest =>
    have hplain : c ≠ '_' := by
      rintro rfl
      exact absurd (hdigits '_' List.mem_cons_self) (by decide)
    rw [readNatural?, readDigits]
    · cases digitValue? c with
      | none => rfl
      | some d =>
        show readDigits d rest = readDigits (10 * 0 + d) rest
        rw [Nat.mul_zero, Nat.zero_add]
    · exact fun e _ => hplain e
    · exact fun _ _ e => absurd e hplain

/-- A number with zeros in front is read back. -/
theorem readNatural?_padded (width n : Nat) :
    readNatural? (padded (width + 1) n).toList = some n := by
  have hsome : (padded (width + 1) n).toList ≠ [] :=
    List.ne_nil_of_length_pos (Nat.lt_of_lt_of_le width.succ_pos (le_length_padded (width + 1) n))
  have hread := readDigits_padded (width + 1) n []
  rw [List.append_nil] at hread
  rw [readNatural?_eq_readDigits hsome isDigit_of_mem_padded, hread]
  rfl

/-- A written number tells the number. -/
theorem padded_injective {width m n : Nat} (h : padded width m = padded width n) : m = n := by
  have hread (k : Nat) : readDigits 0 (padded width k).toList = some k := by
    have := readDigits_padded width k []
    rwa [List.append_nil] at this
  have hsame := hread m
  rw [h, hread n] at hsame
  exact (Option.some.inj hsame).symm

/-! ## Integers -/

/-- Nothing is taken off a text without characters of the class. -/
theorem stripped_of_forall {inClass : Char → Bool} {s : List Char}
    (h : ∀ c ∈ s, inClass c = false) : stripped inClass s = s := by
  have hdrop {l : List Char} (hl : ∀ c ∈ l, inClass c = false) : l.dropWhile inClass = l := by
    cases l with
    | nil => rfl
    | cons c rest => rw [List.dropWhile_cons, hl c List.mem_cons_self, if_neg Bool.false_ne_true]
  rw [stripped, hdrop h, hdrop fun c hc => h c (List.mem_reverse.mp hc), List.reverse_reverse]

/-- A digit is neither a sign nor white space. -/
theorem isDigit_elim {c : Char} (h : c.isDigit = true) :
    c ≠ '-' ∧ c ≠ '+' ∧ isWhiteSpace c = false := by
  refine ⟨?_, ?_, ?_⟩
  · rintro rfl
    exact absurd h (by decide)
  · rintro rfl
    exact absurd h (by decide)
  · simp only [Char.isDigit, Bool.and_eq_true, decide_eq_true_eq, UInt32.le_iff_toNat_le] at h
    have hcode : 48 ≤ c.toNat ∧ c.toNat ≤ 57 := h
    simp only [isWhiteSpace, inRanges, whiteSpaceRanges, List.any_cons, List.any_nil,
      Bool.or_false, Bool.or_eq_false_iff, Bool.and_eq_false_iff, decide_eq_false_iff_not]
    omega

theorem digits_ne_nil (n : Nat) : digits n ≠ [] := by
  by_cases h : n < 10
  · rw [digits, digitsBefore, if_pos h]
    exact List.cons_ne_nil _ _
  · rw [digits_of_ge (by omega)]
    exact List.append_ne_nil_of_right_ne_nil _ (List.cons_ne_nil _ _)

theorem readNatural?_digits (n : Nat) : readNatural? (digits n) = some n := by
  have hread := readDigits_digits n []
  rw [List.append_nil] at hread
  rw [readNatural?_eq_readDigits (digits_ne_nil n) isDigit_of_mem_digits, hread]
  rfl

/-- Digits are read without a sign. -/
theorem readSigned?_of_isDigit {chars : List Char} (h : ∀ c ∈ chars, c.isDigit = true) :
    readSigned? chars = (readNatural? chars).map fun n => (n : Int) := by
  cases chars with
  | nil => rfl
  | cons c rest =>
    obtain ⟨hminus, hplus, -⟩ := isDigit_elim (h c List.mem_cons_self)
    rw [readSigned?]
    · exact fun _ e => hminus (List.cons.inj e).1
    · exact fun _ e => hplus (List.cons.inj e).1

/-- A written integer is read back, unless it has too many digits. -/
theorem readInteger?_ofInt {n : Int} (h : (digits n.natAbs).length ≤ maxDigits) :
    readInteger? (ofInt n) = some n := by
  have hcount : digitCount (digits n.natAbs) ≤ maxDigits := Nat.le_trans List.countP_le_length h
  have hplain : ∀ c ∈ digits n.natAbs, isWhiteSpace c = false :=
    fun c hc => (isDigit_elim (isDigit_of_mem_digits c hc)).2.2
  by_cases hsign : n < 0
  · have hchars : (ofInt n).toList = '-' :: digits n.natAbs := by
      simp [ofInt, hsign, ofNat]
    have hstripped : stripped isWhiteSpace ('-' :: digits n.natAbs) = '-' :: digits n.natAbs :=
      stripped_of_forall (List.forall_mem_cons.mpr ⟨by decide, hplain⟩)
    have hminus : digitCount ('-' :: digits n.natAbs) = digitCount (digits n.natAbs) :=
      List.countP_cons_of_neg (by decide)
    rw [readInteger?, hchars, hminus, if_pos hcount, hstripped, readSigned?, readNatural?_digits]
    have hback : -(n.natAbs : Int) = n := by omega
    exact congrArg some hback
  · have hchars : (ofInt n).toList = digits n.natAbs := by
      rw [ofInt, if_neg hsign, ofNat, String.toList_ofList]
    rw [readInteger?, hchars, if_pos hcount, stripped_of_forall hplain,
      readSigned?_of_isDigit isDigit_of_mem_digits, readNatural?_digits]
    have hback : (n.natAbs : Int) = n := by omega
    exact congrArg some hback

end SqlDialect.Text
