import SqlDialect.Text.Number

/-!
# Decimal fractions

A number written with a decimal point: `mantissa` tenths, hundredths and so on, according to the
number of `places`. Its text has at least one place and no superfluous zeros behind.
-/

namespace SqlDialect

/-- The number `mantissa / 10 ^ places`. -/
structure Decimal where
  mantissa : Int
  places : Nat
  deriving DecidableEq, Repr, Inhabited

namespace Decimal

/-- How many units of a place make a whole. -/
def scale (places : Nat) : Nat :=
  Nat.pow 10 places

/-- Drops zeros behind the last place that counts, at most `fuel` of them. -/
def dropZeros : Nat → Int → Nat → Decimal
  | 0, m, p => ⟨m, p⟩
  | fuel + 1, m, p =>
    if 1 < p ∧ m % 10 = 0 then dropZeros fuel (m / 10) (p - 1) else ⟨m, p⟩

/-- The fraction with the given mantissa and places in its shortest form. -/
def ofMantissa (mantissa : Int) (places : Nat) : Decimal :=
  dropZeros places mantissa places

/-- The text of a fraction: a sign if it is negative, the whole part, a point and the places. -/
def text (d : Decimal) : String :=
  let n := d.mantissa.natAbs
  (if d.mantissa < 0 then "-" else "") ++ Text.ofNat (n / scale d.places) ++ "." ++
    Text.padded (max d.places 1) (n % scale d.places)

/-- The fraction rounded towards zero. -/
def truncate (d : Decimal) : Int :=
  Int.tdiv d.mantissa (scale d.places)

/-- Whether two fractions are the same number. -/
def same (d e : Decimal) : Bool :=
  d.mantissa * scale e.places == e.mantissa * scale d.places

end Decimal

end SqlDialect
