/-!
# Integers of fixed width

Cell numbers and masks live in 64-bit signed words, counts in unsigned ones. They are kept as
integers; the functions here say what happens at the ends of the range.

* `Word.Fits` says that an integer is a signed word.
* `Word.wrap` brings a sum back into the range of signed words, modulo `2^64`.
* `Word.clamp` stops at the end of the range instead.
* `Word.signed` and `Word.unsigned` read the bits of a word the other way. What is no word stays as
  it is.
-/

namespace Playfield.Word

/-- The least signed word. -/
def least : Int := -0x8000000000000000

/-- The greatest signed word. -/
def greatest : Int := 0x7fffffffffffffff

/-- The greatest unsigned word. -/
def greatestUnsigned : Nat := 0xffffffffffffffff

/-- The greatest unsigned half word. -/
def greatestHalf : Nat := 0xffffffff

/-- The integer is a signed word. -/
def Fits (n : Int) : Prop := least ≤ n ∧ n ≤ greatest

instance : DecidablePred Fits := fun _ => inferInstanceAs (Decidable (_ ∧ _))

/-- A signed word with the same remainder modulo `2^64`. -/
def wrap (n : Int) : Int := n.bmod 0x10000000000000000

/-- The signed word closest to `n`. -/
def clamp (n : Int) : Int := max least (min greatest n)

/-- The signed word with the bits of an unsigned one. -/
def signed (n : Nat) : Int :=
  if greatest < n ∧ n ≤ greatestUnsigned then n - 0x10000000000000000 else n

/-- The unsigned word with the bits of a signed one. -/
def unsigned (n : Int) : Nat :=
  (if n < 0 then n + 0x10000000000000000 else n).toNat

theorem wrap_eq_self {n : Int} (h : least ≤ n) (h' : n ≤ greatest) : wrap n = n := by
  simp only [least, greatest] at *
  exact Int.bmod_eq_of_le (by omega) (by omega)

theorem clamp_eq_self {n : Int} (h : least ≤ n) (h' : n ≤ greatest) : clamp n = n := by
  simp only [clamp, least, greatest] at *
  omega

theorem unsigned_signed (n : Nat) : unsigned (signed n) = n := by
  simp only [signed, unsigned, greatest, greatestUnsigned]
  omega

theorem unsigned_natCast (n : Nat) : unsigned n = n := by
  simp only [unsigned]
  omega

end Playfield.Word
