/-!
# Blank characters

Two classes of characters. `isWhiteSpace` holds those with the Unicode property `White_Space`: they
may surround a number. `isBlank` adds the four information separators: they all count as space
between words. The zero-width characters are in neither.
-/

namespace SqlDialect.Text

/-- The first and last code points of each run of characters with the property `White_Space`. -/
def whiteSpaceRanges : List (Nat × Nat) :=
  [(0x09, 0x0D), (0x20, 0x20), (0x85, 0x85), (0xA0, 0xA0), (0x1680, 0x1680), (0x2000, 0x200A),
   (0x2028, 0x2029), (0x202F, 0x202F), (0x205F, 0x205F), (0x3000, 0x3000)]

/-- The first and last code points of the information separators. -/
def separatorRange : Nat × Nat :=
  (0x1C, 0x1F)

/-- Whether a character lies in one of the given runs of code points. -/
def inRanges (ranges : List (Nat × Nat)) (c : Char) : Bool :=
  ranges.any fun r => r.1 ≤ c.toNat && c.toNat ≤ r.2

/-- Whether a character has the property `White_Space`. -/
def isWhiteSpace (c : Char) : Bool :=
  inRanges whiteSpaceRanges c

/-- Whether a character is white space or an information separator. -/
def isBlank (c : Char) : Bool :=
  inRanges (separatorRange :: whiteSpaceRanges) c

/-- The characters without those of a class at both ends. -/
def stripped (inClass : Char → Bool) (s : List Char) : List Char :=
  ((s.dropWhile inClass).reverse.dropWhile inClass).reverse

/-- The characters without the blanks in front. -/
def trimStart (s : List Char) : List Char :=
  s.dropWhile isBlank

/-- The characters without the blanks behind. -/
def trimEnd (s : List Char) : List Char :=
  (s.reverse.dropWhile isBlank).reverse

/-- The characters without the blanks at both ends. -/
def trim (s : List Char) : List Char :=
  stripped isBlank s

end SqlDialect.Text
