import SqlDialect.Text.Utf8

/-!
# Percent-encoding

Inside a URL a character may be written as its octets in UTF-8, each a percent sign and two
hexadecimal digits. `Percent.encode` writes everything so but ASCII letters and digits and the marks
`_ . - ~`, the space and the plus. `Percent.decode` reads it back and leaves alone what is no octet.
-/

namespace SqlDialect.Text.Percent

/-- Whether a character stands for itself in the encoded form. -/
def isPlain (c : Char) : Bool :=
  c.isAlphanum || c = '_' || c = '.' || c = '-' || c = '~' || c = ' ' || c = '+'

/-- The hexadecimal digit of a number below sixteen, in upper case. -/
def hexDigit (n : Nat) : Char :=
  Char.ofNat (if n < 10 then 48 + n else 55 + n)

/-- The value of a hexadecimal digit in either case. -/
def hexValue? (c : Char) : Option Nat :=
  if '0' ≤ c ∧ c ≤ '9' then some (c.toNat - 48)
  else if 'A' ≤ c ∧ c ≤ 'F' then some (c.toNat - 55)
  else if 'a' ≤ c ∧ c ≤ 'f' then some (c.toNat - 87)
  else none

/-- An octet as a percent sign and two digits. -/
def encodeOctet (b : Nat) : List Char :=
  ['%', hexDigit (b / 16), hexDigit (b % 16)]

/-- A character in the encoded form. -/
def encodeChar (c : Char) : List Char :=
  if isPlain c then [c] else (Utf8.encodeChar c).flatMap encodeOctet

/-- The encoded form of a text. -/
def encode (s : List Char) : List Char :=
  s.flatMap encodeChar

/-- The octets that an encoded text stands for. -/
def octets : List Char → List Nat
  | [] => []
  | c :: rest =>
    match c, rest with
    | '%', a :: b :: behind =>
      match hexValue? a, hexValue? b with
      | some high, some low => (16 * high + low) :: octets behind
      | _, _ => Utf8.encodeChar '%' ++ octets (a :: b :: behind)
    | c, rest => Utf8.encodeChar c ++ octets rest

/-- The text that an encoded text stands for. -/
def decode (s : List Char) : List Char :=
  Utf8.decode (octets s)

end SqlDialect.Text.Percent
