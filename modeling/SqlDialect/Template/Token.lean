import SqlDialect.Template.Basic

/-!
# The parts of a template's source

The source of a template is text with tags in it. Double braces enclose an output, braces with
percent signs a statement, braces with number signs a comment. A minus sign inside a delimiter takes
away the white space next to the tag on that side. A raw block is text, whatever it holds.

`Piece.ofSource?` cuts a source into pieces of text, outputs and statements, the latter two as lists
of words. Line ends are made uniform first, and a single one at the very end is dropped. There are
no pieces if a tag is not closed or holds a character that starts no word.
-/

namespace SqlDialect.Template

/-- A word inside a tag. -/
inductive Word where
  | name (s : String)
  | text (s : String)
  | number (n : Nat)
  deriving DecidableEq, Repr

/-- A part of a source. -/
inductive Piece where
  | text (s : String)
  | output (words : List Word)
  | statement (words : List Word)
  deriving DecidableEq, Repr

/-! ## Line ends -/

/-- Writes every line end as a single line feed. -/
def uniformLineEnds : List Char → List Char
  | '\r' :: '\n' :: rest => '\n' :: uniformLineEnds rest
  | '\r' :: rest => '\n' :: uniformLineEnds rest
  | c :: rest => c :: uniformLineEnds rest
  | [] => []

/-- Drops a line feed at the very end. -/
def dropFinalLineFeed (s : List Char) : List Char :=
  if s.getLast? = some '\n' then s.dropLast else s

/-! ## Words -/

/-- Whether a name may start with a character. -/
def startsName (c : Char) : Bool :=
  c.isAlpha || c = '_' || (0x80 ≤ c.toNat && Text.isVisible c)

/-- Whether a name may go on with a character. -/
def continuesName (c : Char) : Bool :=
  startsName c || c.isDigit

/-- The value of a hexadecimal digit. -/
def hexValue? (c : Char) : Option Nat :=
  if c.isDigit then some (c.toNat - 48)
  else if 'a' ≤ c ∧ c ≤ 'f' then some (c.toNat - 87)
  else if 'A' ≤ c ∧ c ≤ 'F' then some (c.toNat - 55)
  else none

/-- The character with the given hexadecimal digits. -/
def hexChar? (digits : List Char) : Option Char := do
  let values ← digits.mapM hexValue?
  some (Char.ofNat (values.foldl (fun n d => 16 * n + d) 0))

/-- The text up to the closing quote as it is written, and what follows the quote. A backslash
protects the character behind it. -/
def cutString (q : Char) : List Char → Option (List Char × List Char)
  | [] => none
  | '\\' :: c :: rest => (cutString q rest).map fun (s, after) => ('\\' :: c :: s, after)
  | c :: rest =>
    if c = q then some ([], rest)
    else (cutString q rest).map fun (s, after) => (c :: s, after)

/-- The text that a written text between quotes stands for. -/
def unescape : List Char → Option (List Char)
  | [] => some []
  | '\\' :: 'x' :: a :: b :: rest => do some ((← hexChar? [a, b]) :: (← unescape rest))
  | '\\' :: 'u' :: a :: b :: c :: d :: rest => do
    some ((← hexChar? [a, b, c, d]) :: (← unescape rest))
  | '\\' :: c :: rest => do
    let tail ← unescape rest
    match c with
    | 'n' => some ('\n' :: tail)
    | 't' => some ('\t' :: tail)
    | 'r' => some ('\r' :: tail)
    | 'a' => some ('\x07' :: tail)
    | 'b' => some ('\x08' :: tail)
    | 'f' => some ('\x0c' :: tail)
    | 'v' => some ('\x0b' :: tail)
    | '\\' => some ('\\' :: tail)
    | '\'' => some ('\'' :: tail)
    | '"' => some ('"' :: tail)
    | '\n' => some tail
    | 'x' => none
    | 'u' => none
    | c => some ('\\' :: c :: tail)
  | c :: rest => (unescape rest).map (c :: ·)

/-- The digits of a number that starts with a digit other than zero, and what follows them. Single
underscores may stand between digits. -/
def cutDigits : List Char → List Char × List Char
  | '_' :: c :: rest =>
    if c.isDigit then
      let (ds, after) := cutDigits rest
      (c :: ds, after)
    else ([], '_' :: c :: rest)
  | c :: rest =>
    if c.isDigit then
      let (ds, after) := cutDigits rest
      (c :: ds, after)
    else ([], c :: rest)
  | [] => ([], [])

/-- The value of a list of ASCII digits. -/
def digitsValue (ds : List Char) : Nat :=
  ds.foldl (fun n d => 10 * n + (d.toNat - 48)) 0

/-- What follows the end of a tag, if one starts here. `close` is the character before the closing
brace. -/
def afterTag? (close : Char) : List Char → Option (List Char)
  | '-' :: a :: '}' :: rest => if a = close then some (Text.trimStart rest) else none
  | '+' :: a :: '}' :: rest => if a = close ∧ close = '%' then some rest else none
  | a :: '}' :: rest => if a = close then some rest else none
  | _ => none

/-- The words up to the end of the tag, and what follows the tag. -/
def cutWords (close : Char) : Nat → List Char → Option (List Word × List Char)
  | 0, _ => none
  | fuel + 1, s =>
    let s := Text.trimStart s
    match afterTag? close s with
    | some after => some ([], after)
    | none =>
      match s with
      | [] => none
      | c :: rest =>
        if c = '\'' ∨ c = '"' then do
          let (written, after) ← cutString c rest
          let content ← unescape written
          let (words, after) ← cutWords close fuel after
          some (.text (String.ofList content) :: words, after)
        -- A zero is a number by itself, more zeros at most: `007` is two numbers.
        else if c = '0' then do
          let (words, after) ← cutWords close fuel (rest.dropWhile (· = '0'))
          some (.number 0 :: words, after)
        else if c.isDigit then do
          let (ds, after) := cutDigits rest
          let (words, after) ← cutWords close fuel after
          some (.number (digitsValue (c :: ds)) :: words, after)
        else if startsName c then do
          let (words, after) ← cutWords close fuel (rest.dropWhile continuesName)
          some (.name (String.ofList (c :: rest.takeWhile continuesName)) :: words, after)
        else none

/-! ## Pieces -/

/-- The text before the next tag, and the tag's second character with what follows it. -/
def cutText : List Char → List Char × Option (Char × List Char)
  | '{' :: '{' :: rest => ([], some ('{', rest))
  | '{' :: '%' :: rest => ([], some ('%', rest))
  | '{' :: '#' :: rest => ([], some ('#', rest))
  | c :: rest =>
    let (front, tag) := cutText rest
    (c :: front, tag)
  | [] => ([], none)

/-- What follows the end of a comment. -/
def afterComment? : List Char → Option (List Char)
  | '-' :: '#' :: '}' :: rest => some (Text.trimStart rest)
  | '#' :: '}' :: rest => some rest
  | _ :: rest => afterComment? rest
  | [] => none

/-- What follows a word, and blanks around it, if it stands here. -/
def afterWord? (word s : List Char) : Option (List Char) :=
  let s := Text.trimStart s
  if word.isPrefixOf s then some (Text.trimStart (s.drop word.length)) else none

/-- What follows the start of a raw block behind its sign. -/
def afterRaw? (s : List Char) : Option (List Char) := do
  match ← afterWord? ['r', 'a', 'w'] s with
  | '-' :: '%' :: '}' :: rest => some (Text.trimStart rest)
  | '%' :: '}' :: rest => some rest
  | _ => none

/-- A sign inside an opening delimiter: whether it is a minus, and what follows it. -/
def cutSign : List Char → Bool × List Char
  | '-' :: rest => (true, rest)
  | '+' :: rest => (false, rest)
  | rest => (false, rest)

/-- The end of a raw block, if it starts here: whether the white space before it goes, and what
follows it. -/
def rawEnd? : List Char → Option (Bool × List Char)
  | '{' :: '%' :: rest => do
    let (trims, rest) := cutSign rest
    let rest ← afterWord? ['e', 'n', 'd', 'r', 'a', 'w'] rest
    some (trims, ← afterTag? '%' rest)
  | _ => none

/-- The text of a raw block and what follows the block. -/
def cutRaw : List Char → Option (List Char × Bool × List Char)
  | [] => none
  | c :: rest =>
    match rawEnd? (c :: rest) with
    | some (trims, after) => some ([], trims, after)
    | none => (cutRaw rest).map fun (s, trims, after) => (c :: s, trims, after)

/-- Text with the white space at its end taken away if a tag asks for it. -/
def trimmed (trims : Bool) (s : List Char) : Piece :=
  .text (String.ofList (if trims then Text.trimEnd s else s))

/-- The pieces of a source with uniform line ends, at most `fuel` tags of them. -/
def cutPieces : Nat → List Char → Option (List Piece)
  | 0, _ => none
  | fuel + 1, s =>
    match cutText s with
    | (front, none) => some [trimmed false front]
    | (front, some (kind, rest)) => do
      let (trims, body) := cutSign rest
      if kind = '{' then do
        let (words, after) ← cutWords '}' (body.length + 1) body
        some (trimmed trims front :: .output words :: (← cutPieces fuel after))
      else if kind = '#' then do
        some (trimmed trims front :: (← cutPieces fuel (← afterComment? body)))
      else
        match afterRaw? body with
        | some raw => do
          let (content, trimsRaw, after) ← cutRaw raw
          some (trimmed trims front :: trimmed trimsRaw content :: (← cutPieces fuel after))
        | none => do
          let (words, after) ← cutWords '%' (body.length + 1) body
          some (trimmed trims front :: .statement words :: (← cutPieces fuel after))

/-- The pieces of a source. -/
def Piece.ofSource? (source : String) : Option (List Piece) :=
  let s := dropFinalLineFeed (uniformLineEnds source.toList)
  cutPieces (s.length + 1) s

end SqlDialect.Template
