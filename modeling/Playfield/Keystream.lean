/-!
# A seeded keystream

Random numbers are read off the keystream of ChaCha with eight rounds, so that a seed determines
them. `Keystream` is the key and the number of words read so far.

* `Keystream.ofSeed` expands a 64-bit seed into a key.
* `next32` reads one word, `next64` two, the low one first.
-/

namespace Playfield

/-- A key and the number of 32-bit words read. -/
structure Keystream where
  key : List UInt32
  position : Nat := 0
  deriving DecidableEq, Repr

namespace Keystream

/-- The state after one step of the generator that expands seeds. -/
def nextSeed (s : UInt64) : UInt64 := s * 6364136223846793005 + 11634580027462260723

/-- Turns the bits of a word to the right. -/
def rotateRight (x : UInt32) (n : UInt32) : UInt32 := (x >>> n) ||| (x <<< (32 - n))

/-- Turns the bits of a word to the left. -/
def rotateLeft (x : UInt32) (n : UInt32) : UInt32 := (x <<< n) ||| (x >>> (32 - n))

/-- The word that a state of the seed generator gives. -/
def seedWord (s : UInt64) : UInt32 :=
  rotateRight (((s >>> 18) ^^^ s) >>> 27).toUInt32 (s >>> 59).toUInt32

/-- The first words given by the seed generator. -/
def seedWords : Nat → UInt64 → List UInt32
  | 0, _ => []
  | n + 1, s => let s := nextSeed s; seedWord s :: seedWords n s

/-- The keystream of a seed, from its start. -/
def ofSeed (seed : UInt64) : Keystream := { key := seedWords 8 seed }

/-- Sixteen words. -/
abbrev Block := Array UInt32

/-- Mixes four words of a block. -/
def quarterRound (b : Block) (i j k l : Nat) : Block :=
  let a := b.getD i 0
  let c := b.getD j 0
  let e := b.getD k 0
  let g := b.getD l 0
  let a := a + c
  let g := rotateLeft (g ^^^ a) 16
  let e := e + g
  let c := rotateLeft (c ^^^ e) 12
  let a := a + c
  let g := rotateLeft (g ^^^ a) 8
  let e := e + g
  let c := rotateLeft (c ^^^ e) 7
  (((b.setIfInBounds i a).setIfInBounds j c).setIfInBounds k e).setIfInBounds l g

/-- A round over the columns and one over the diagonals. -/
def doubleRound (b : Block) : Block :=
  [(0, 4, 8, 12), (1, 5, 9, 13), (2, 6, 10, 14), (3, 7, 11, 15),
    (0, 5, 10, 15), (1, 6, 11, 12), (2, 7, 8, 13), (3, 4, 9, 14)].foldl
    (fun b q => quarterRound b q.1 q.2.1 q.2.2.1 q.2.2.2) b

/-- The block before mixing: constants, key, counter and zeros. -/
def initial (key : List UInt32) (counter : Nat) : Block :=
  ([0x61707865, 0x3320646e, 0x79622d32, 0x6b206574] ++ key ++
    [UInt32.ofNat counter, UInt32.ofNat (counter / 0x100000000), 0, 0]).toArray

/-- A block of the keystream. -/
def block (key : List UInt32) (counter : Nat) : Block :=
  let start := initial key counter
  let mixed := Nat.repeat doubleRound 4 start
  mixed.zipWith (· + ·) start

/-- A word of the keystream. -/
def word (key : List UInt32) (n : Nat) : UInt32 := (block key (n / 16)).getD (n % 16) 0

/-- Reads a word. -/
def next32 (s : Keystream) : UInt32 × Keystream :=
  (word s.key s.position, { s with position := s.position + 1 })

/-- Reads two words as one number, the low one first. -/
def next64 (s : Keystream) : UInt64 × Keystream :=
  let (low, s) := s.next32
  let (high, s) := s.next32
  (high.toUInt64 <<< 32 ||| low.toUInt64, s)

/-- The seed of a text: the 64-bit FNV-1a hash of its UTF-8 bytes. -/
def hashSeed (seed : String) : UInt64 :=
  seed.toUTF8.toList.foldl (fun h b => (h ^^^ b.toUInt64) * 0x100000001b3) 0xcbf29ce484222325

end Keystream

end Playfield
