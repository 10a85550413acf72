/-!
# UTF-8

`Utf8.decode` takes bytes for characters. Bytes that form no character leave a gap: one for the
longest beginning of a character that is not continued, and one for every byte that begins none.

* `Utf8.step` takes one byte, with the character that is not complete yet.
* `Utf8.decode?` is the text of bytes without gaps; `Utf8.decodeLossy` writes a replacement
  character for each gap.
* `Utf8.encode` are the bytes of a text.
-/

namespace Playfield.Utf8

/-- A character of which bytes are due. -/
structure Unfinished where
  /-- The bits of the bytes so far. -/
  bits : Nat
  /-- The number of bytes that are due, at least one. -/
  due : Nat
  /-- The least that the next byte may be. -/
  least : Nat := 0x80
  /-- The greatest that the next byte may be. -/
  greatest : Nat := 0xBF
  deriving DecidableEq, Repr

/-- The character that a byte begins, if it is one of several bytes. The bounds on the second byte
leave out characters that fewer bytes write, surrogates and what lies past the last character. -/
def Unfinished.ofFirst? (b : Nat) : Option Unfinished :=
  if 0xC2 ≤ b ∧ b ≤ 0xDF then some { bits := b - 0xC0, due := 1 }
  else if b = 0xE0 then some { bits := 0, due := 2, least := 0xA0 }
  else if b = 0xED then some { bits := 0xD, due := 2, greatest := 0x9F }
  else if 0xE1 ≤ b ∧ b ≤ 0xEF then some { bits := b - 0xE0, due := 2 }
  else if b = 0xF0 then some { bits := 0, due := 3, least := 0x90 }
  else if 0xF1 ≤ b ∧ b ≤ 0xF3 then some { bits := b - 0xF0, due := 3 }
  else if b = 0xF4 then some { bits := 4, due := 3, greatest := 0x8F }
  else none

/-- Takes the first byte of a character. Gives what it completes and what it leaves unfinished. -/
def first (b : Nat) : List (Option Char) × Option Unfinished :=
  if b < 0x80 then ([some (Char.ofNat b)], none)
  else
    match Unfinished.ofFirst? b with
    | some u => ([], some u)
    | none => ([none], none)

/-- Takes one byte. A byte that does not continue the unfinished character begins the next one. -/
def step (state : Option Unfinished) (b : Nat) : List (Option Char) × Option Unfinished :=
  match state with
  | none => first b
  | some u =>
    if u.least ≤ b ∧ b ≤ u.greatest then
      let bits := u.bits * 64 + (b - 0x80)
      if u.due = 1 then ([some (Char.ofNat bits)], none) else ([], some { bits, due := u.due - 1 })
    else
      let (found, state) := first b
      (none :: found, state)

/-- The characters and gaps of bytes that come after an unfinished character. -/
def decodeFrom : Option Unfinished → List UInt8 → List (Option Char)
  | none, [] => []
  | some _, [] => [none]
  | state, b :: rest =>
    let (found, state) := step state b.toNat
    found ++ decodeFrom state rest

/-- The characters and gaps of bytes. -/
def decode (bytes : List UInt8) : List (Option Char) := decodeFrom none bytes

/-- The characters of bytes, if there are no gaps. -/
def decode? (bytes : List UInt8) : Option (List Char) := (decode bytes).mapM id

/-- The characters of bytes, with a replacement character in each gap. -/
def decodeLossy (bytes : List UInt8) : List Char := (decode bytes).map (·.getD '\uFFFD')

/-- The bytes of characters. -/
def encode (cs : List Char) : List UInt8 := cs.flatMap String.utf8EncodeChar

end Playfield.Utf8
