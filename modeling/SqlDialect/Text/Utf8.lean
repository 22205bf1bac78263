/-!
# UTF-8

`Utf8.encode` writes a text as octets, `Utf8.decode` reads octets as a text. Reading never fails: a
sequence that is broken off or cannot continue is read as one replacement character, and the octet
at which it broke is read anew.

Octets are natural numbers.
-/

namespace SqlDialect.Text.Utf8

/-- The octets of a character. -/
def encodeChar (c : Char) : List Nat :=
  let n := c.toNat
  if n < 0x80 then [n]
  else if n < 0x800 then [0xC0 + n / 0x40, 0x80 + n % 0x40]
  else if n < 0x10000 then [0xE0 + n / 0x1000, 0x80 + n / 0x40 % 0x40, 0x80 + n % 0x40]
  else [0xF0 + n / 0x40000, 0x80 + n / 0x1000 % 0x40, 0x80 + n / 0x40 % 0x40, 0x80 + n % 0x40]

/-- The octets of a text. -/
def encode (s : List Char) : List Nat :=
  s.flatMap encodeChar

/-- A character that has been read in part: its bits so far, the bounds of the next octet, and how
many octets will follow that one. -/
structure Pending where
  bits : Nat
  least : Nat
  greatest : Nat
  more : Nat

/-- What stands for octets that are no character. -/
def replacement : Char := '\uFFFD'

/-- The state behind an octet with which a character of several octets starts. -/
def startPending? (b : Nat) : Option Pending :=
  if 0xC2 ≤ b ∧ b ≤ 0xDF then some ⟨b - 0xC0, 0x80, 0xBF, 0⟩
  else if b = 0xE0 then some ⟨0, 0xA0, 0xBF, 1⟩
  else if b = 0xED then some ⟨0xD, 0x80, 0x9F, 1⟩
  else if 0xE1 ≤ b ∧ b ≤ 0xEF then some ⟨b - 0xE0, 0x80, 0xBF, 1⟩
  else if b = 0xF0 then some ⟨0, 0x90, 0xBF, 2⟩
  else if 0xF1 ≤ b ∧ b ≤ 0xF3 then some ⟨b - 0xF0, 0x80, 0xBF, 2⟩
  else if b = 0xF4 then some ⟨4, 0x80, 0x8F, 2⟩
  else none

/-- What an octet between characters yields, and the state behind it. -/
def start (b : Nat) : List Char × Option Pending :=
  if b < 0x80 then ([Char.ofNat b], none)
  else
    match startPending? b with
    | some p => ([], some p)
    | none => ([replacement], none)

/-- What an octet yields in a state, and the state behind it. -/
def step (state : Option Pending) (b : Nat) : List Char × Option Pending :=
  match state with
  | none => start b
  | some p =>
    if p.least ≤ b ∧ b ≤ p.greatest then
      let bits := p.bits * 0x40 + (b - 0x80)
      match p.more with
      | 0 => ([Char.ofNat bits], none)
      | more + 1 => ([], some ⟨bits, 0x80, 0xBF, more⟩)
    else
      let (read, next) := start b
      (replacement :: read, next)

/-- Reads octets from a state on. -/
def decodeFrom : Option Pending → List Nat → List Char
  | none, [] => []
  | some _, [] => [replacement]
  | state, b :: rest =>
    let (read, next) := step state b
    read ++ decodeFrom next rest

/-- The text of a list of octets. -/
def decode (octets : List Nat) : List Char :=
  decodeFrom none octets

end SqlDialect.Text.Utf8
