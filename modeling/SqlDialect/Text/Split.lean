/-!
# Taking texts apart

`splitAt separator` cuts a list of characters at each occurrence of a character, and `joinWith` joins
pieces with that character.
-/

namespace SqlDialect.Text

/-- The pieces between the occurrences of `separator`; there is always at least one. -/
def splitAt (separator : Char) : List Char → List (List Char)
  | [] => [[]]
  | c :: rest =>
    if c = separator then [] :: splitAt separator rest
    else
      match splitAt separator rest with
      | [] => [[c]]
      | piece :: pieces => (c :: piece) :: pieces

/-- The pieces with `separator` between each two. -/
def joinWith (separator : Char) : List (List Char) → List Char
  | [] => []
  | [piece] => piece
  | piece :: rest => piece ++ separator :: joinWith separator rest

/-- The characters before the first occurrence of `separator`, and those behind it if there is
one. -/
def cutAt (separator : Char) : List Char → List Char × Option (List Char)
  | [] => ([], none)
  | c :: rest =>
    if c = separator then ([], some rest)
    else
      let (front, behind) := cutAt separator rest
      (c :: front, behind)

end SqlDialect.Text
