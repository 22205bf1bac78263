import SqlDialect.Template.Token

/-!
# Reading templates

`Template.ofSource?` reads the source of a template. The words of an output make one term; `not`
binds closer than `and`, and that closer than `or`. The statements are choices: `if`, any number of
`elif`, perhaps an `else`, and `endif`. A source that does not fit this form is malformed, whatever
parameters there are.
-/

namespace SqlDialect.Template

/-! ## Terms -/

/-- What a name stands for: some are written values. -/
def nameTerm (s : String) : Term :=
  if s = "true" ∨ s = "True" then .literal (.bool true)
  else if s = "false" ∨ s = "False" then .literal (.bool false)
  else if s = "none" ∨ s = "None" then .literal .null
  else .name s

/-- The texts at the start of a list of words, put together, and the words behind them. -/
def cutTexts : List Word → String × List Word
  | .text s :: rest =>
    let (t, after) := cutTexts rest
    (s ++ t, after)
  | rest => ("", rest)

/-- A term without operators. Texts next to each other are one text. -/
def readPlain : List Word → Option (Term × List Word)
  | .name s :: rest => some (nameTerm s, rest)
  | .number n :: rest => some (.literal (.int n), rest)
  | .text s :: rest =>
    let (t, after) := cutTexts rest
    some (.literal (.text (s ++ t)), after)
  | [] => none

/-- A term with any number of `not` in front. -/
def readNot : List Word → Option (Term × List Word)
  | .name "not" :: rest => (readNot rest).map fun (t, after) => (.not t, after)
  | rest => readPlain rest

/-- Terms with `and` between them. -/
def readAnd : Nat → List Word → Option (Term × List Word)
  | 0, _ => none
  | fuel + 1, words => do
    let (left, after) ← readNot words
    match after with
    | .name "and" :: rest =>
      let (right, after) ← readAnd fuel rest
      some (.and left right, after)
    | _ => some (left, after)

/-- Terms with `or` between them. -/
def readOr : Nat → List Word → Option (Term × List Word)
  | 0, _ => none
  | fuel + 1, words => do
    let (left, after) ← readAnd (words.length + 1) words
    match after with
    | .name "or" :: rest =>
      let (right, after) ← readOr fuel rest
      some (.or left right, after)
    | _ => some (left, after)

/-- The term that a list of words makes as a whole. -/
def Term.ofWords? (words : List Word) : Option Term :=
  match readOr (words.length + 1) words with
  | some (t, []) => some t
  | _ => none

/-! ## Templates -/

/-- What ends a list of pieces inside a choice. -/
inductive Stop where
  | sourceEnd
  | elseIf (test : Term)
  | otherwise
  | choiceEnd
  deriving Inhabited

mutual

/-- Reads pieces up to the end of the source or of the part of a choice in which they stand. -/
def readBody : Nat → List Piece → Option (Template × Stop × List Piece)
  | 0, _ => none
  | _ + 1, [] => some (.done, .sourceEnd, [])
  | fuel + 1, .text s :: rest => do
    let (t, stop, after) ← readBody fuel rest
    some (if s.isEmpty then t else .text s t, stop, after)
  | fuel + 1, .output words :: rest => do
    let term ← Term.ofWords? words
    let (t, stop, after) ← readBody fuel rest
    some (.output term t, stop, after)
  | fuel + 1, .statement (.name "if" :: words) :: rest => do
    let test ← Term.ofWords? words
    let (yes, no, rest) ← readChoice fuel rest
    let (t, stop, after) ← readBody fuel rest
    some (.choice test yes no t, stop, after)
  | _ + 1, .statement (.name "elif" :: words) :: rest => do
    let test ← Term.ofWords? words
    some (.done, .elseIf test, rest)
  | _ + 1, .statement [.name "else"] :: rest => some (.done, .otherwise, rest)
  | _ + 1, .statement [.name "endif"] :: rest => some (.done, .choiceEnd, rest)
  | _ + 1, .statement _ :: _ => none

/-- Reads the two sides of a choice behind its test. -/
def readChoice : Nat → List Piece → Option (Template × Template × List Piece)
  | 0, _ => none
  | fuel + 1, pieces => do
    let (yes, stop, rest) ← readBody fuel pieces
    match stop with
    | .sourceEnd => none
    | .choiceEnd => some (yes, .done, rest)
    | .elseIf test =>
      let (yes', no', rest) ← readChoice fuel rest
      some (yes, .choice test yes' no' .done, rest)
    | .otherwise =>
      match ← readBody fuel rest with
      | (no, .choiceEnd, rest) => some (yes, no, rest)
      | _ => none

end

/-- The template of a list of pieces. -/
def ofPieces? (pieces : List Piece) : Option Template :=
  match readBody (2 * pieces.length + 2) pieces with
  | some (t, .sourceEnd, _) => some t
  | _ => none

/-- Reads a template. -/
def ofSource? (source : String) : Option Template :=
  match Piece.ofSource? source with
  | some pieces => ofPieces? pieces
  | none => none

/-- Reads a template and fills it in. -/
def renderSource (source : String) (params : Parameters) : Except Failure String :=
  match ofSource? source with
  | some t => t.render params
  | none => .error .malformedTemplate

end SqlDialect.Template
