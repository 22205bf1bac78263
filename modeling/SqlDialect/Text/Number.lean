import SqlDialect.Text.Blank

/-!
# Writing and reading whole numbers

`digits` writes a natural number with the ten ASCII digits, without leading zeros; `ofInt` puts a
minus sign before a negative number. Reading is more liberal: `readInteger?` passes over white space
at both ends, takes a sign, digits of any script and single underscores between digits. It is also
less liberal, since it gives up where there are very many digits.

`digitValue_digitChar` ties the two: each digit that is written is read as itself.
-/

namespace SqlDialect.Text

/-- The ASCII digit of a number below ten. -/
def digitChar (d : Nat) : Char :=
  Char.ofNat (48 + d)

/-- Puts the digits of `n` before `tail`, doing at most `fuel` of them. -/
def digitsBefore : Nat → Nat → List Char → List Char
  | 0, _, tail => tail
  | fuel + 1, n, tail =>
    if n < 10 then digitChar n :: tail
    else digitsBefore fuel (n / 10) (digitChar (n % 10) :: tail)

/-- A natural number in decimal. A number has fewer digits than its successor counts. -/
def digits (n : Nat) : List Char :=
  digitsBefore (n + 1) n []

/-- A natural number in decimal, as a string. -/
def ofNat (n : Nat) : String :=
  String.ofList (digits n)

/-- An integer in decimal, with a sign only if it is negative. -/
def ofInt (n : Int) : String :=
  if n < 0 then "-" ++ ofNat n.natAbs else ofNat n.natAbs

/-- A natural number in decimal with zeros in front up to `width` digits. -/
def padded (width n : Nat) : String :=
  String.ofList (List.replicate (width - (digits n).length) '0' ++ digits n)

/-- A natural number in hexadecimal with lower-case letters and zeros in front up to `width`
digits. -/
def hexadecimal (width n : Nat) : String :=
  let ds := Nat.toDigits 16 n
  String.ofList (List.replicate (width - ds.length) '0' ++ ds)

/-- The code points of the digit zero in each script that writes numbers in the decimal system; the
digits up to nine follow it. -/
def zeroDigits : List Nat :=
  [0x30, 0x660, 0x6F0, 0x7C0, 0x966, 0x9E6, 0xA66, 0xAE6, 0xB66, 0xBE6, 0xC66, 0xCE6, 0xD66, 0xDE6,
   0xE50, 0xED0, 0xF20, 0x1040, 0x1090, 0x17E0, 0x1810, 0x1946, 0x19D0, 0x1A80, 0x1A90, 0x1B50,
   0x1BB0, 0x1C40, 0x1C50, 0xA620, 0xA8D0, 0xA900, 0xA9D0, 0xA9F0, 0xAA50, 0xABF0, 0xFF10, 0x104A0,
   0x10D30, 0x11066, 0x110F0, 0x11136, 0x111D0, 0x112F0, 0x11450, 0x114D0, 0x11650, 0x116C0,
   0x11730, 0x118E0, 0x11950, 0x11C50, 0x11D50, 0x11DA0, 0x16A60, 0x16AC0, 0x16B50, 0x1D7CE,
   0x1D7D8, 0x1D7E2, 0x1D7EC, 0x1D7F6, 0x1E140, 0x1E2F0, 0x1E950, 0x1FBF0]

/-- The value of a decimal digit of any script. -/
def digitValue? (c : Char) : Option Nat :=
  (zeroDigits.find? fun z => z ≤ c.toNat && c.toNat < z + 10).map (c.toNat - ·)

/-- Reads the digits after a first one, whose value so far is `value`: to the end, with single
underscores that stand between digits. -/
def readDigits (value : Nat) : List Char → Option Nat
  | [] => some value
  | ['_'] => none
  | '_' :: c :: rest =>
    match digitValue? c with
    | some d => readDigits (10 * value + d) rest
    | none => none
  | c :: rest =>
    match digitValue? c with
    | some d => readDigits (10 * value + d) rest
    | none => none

/-- Reads a natural number, which starts with a digit. -/
def readNatural? : List Char → Option Nat
  | [] => none
  | c :: rest =>
    match digitValue? c with
    | some d => readDigits d rest
    | none => none

/-- The characters behind a sign, if there is one. -/
def withoutSign : List Char → List Char
  | '-' :: rest => rest
  | '+' :: rest => rest
  | s => s

/-- Reads an integer: an optional sign, and a natural number. -/
def readSigned? : List Char → Option Int
  | '-' :: rest => (readNatural? rest).map fun n => -(n : Int)
  | '+' :: rest => (readNatural? rest).map fun n => (n : Int)
  | rest => (readNatural? rest).map fun n => (n : Int)

/-! ## The limit on digits -/

/-- The most digits that a text may have to be read as a number. -/
def maxDigits : Nat := 4300

/-- Whether a character is a decimal digit of any script. -/
def isDecimalDigit (c : Char) : Bool :=
  (digitValue? c).isSome

/-- The number of digits in a text. -/
def digitCount (s : List Char) : Nat :=
  s.countP isDecimalDigit

/-- Reads an integer: white space, an optional sign, digits, white space. An information separator
is no white space here. -/
def readInteger? (s : String) : Option Int :=
  if digitCount s.toList ≤ maxDigits then readSigned? (stripped isWhiteSpace s.toList) else none

/-- Counts on from `count` the digits in front, single underscores between them being passed over. An
underscore in any other place leaves no count. -/
def countDigits (count : Nat) : List Char → Option Nat
  | [] => some count
  | ['_'] => none
  | '_' :: c :: rest => if isDecimalDigit c then countDigits (count + 1) rest else none
  | c :: rest => if isDecimalDigit c then countDigits (count + 1) rest else some count

/-- The number of the digits that a text starts with behind its white space and its sign, if they are
too many. What follows them does not matter. -/
def excessDigits? (s : String) : Option Nat :=
  match withoutSign (stripped isWhiteSpace s.toList) with
  | [] => none
  | c :: rest =>
    if isDecimalDigit c then (countDigits 1 rest).filter fun count => maxDigits < count else none

/-- A written digit is read as its value. -/
theorem digitValue_digitChar {d : Nat} (h : d < 10) : digitValue? (digitChar d) = some d := by
  match d, h with
  | 0, _ | 1, _ | 2, _ | 3, _ | 4, _ | 5, _ | 6, _ | 7, _ | 8, _ | 9, _ => decide

end SqlDialect.Text
