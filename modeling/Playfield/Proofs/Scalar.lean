import Mathlib
import Playfield.Scalar
import Playfield.Word

/-!
# Finite scalars

Which scalars are ordinary numbers. Numbers in documents are words or finite scalars, and all that
is made of them in reading is finite again.

* `Binary.isSome_parts?_ofBits`: bits whose exponent field is not full stand for a finite value, and
  keep it when they are taken for a float and given back (`exponentBits_pack_unpack`).
* `Binary.isSome_parts?_ofInt`: the float nearest to a word is finite.
* `Scalar.Regular`: words and the constants of documents are finite. Floats and rationals are so.
* `Scalar.trunc_intCast`: of a rational that is an integer, bounds are all that is cut off.
* `Scalar.Strict`: zero is not below itself, so that no share of a push is none of it.
-/

namespace Playfield

namespace Binary

open Float.Model

/-- The exponent field of a pattern of bits. -/
def exponentBits (b : BitVec 64) : BitVec Format.binary64.exponentBits :=
  UnpackedFloat.unpackExponent b

theorem toNat_exponentBits (b : BitVec 64) :
    (exponentBits b).toNat = b.toNat / leadingBit % 2048 := by
  simp [exponentBits, UnpackedFloat.unpackExponent, BitVec.extractLsb_toNat,
    Nat.shiftRight_eq_div_pow, leadingBit]

theorem exponentBits_lt_iff {b : BitVec 64} :
    (exponentBits b).toNat < 2047 ↔ exponentBits b ≠ -1#_ := by
  have le : (exponentBits b).toNat < 2048 := (exponentBits b).isLt
  have same : exponentBits b = -1#_ ↔ (exponentBits b).toNat = 2047 := by
    rw [← BitVec.toNat_inj]
    rfl
  rw [ne_eq, same]
  omega

theorem exponentBits_pack_finite {s : UnpackedFloat.Sign} {m : Nat} {e : Int} {h : 0 < m}
    (lt : (e + 1075).toNat < 2047) :
    (exponentBits (UnpackedFloat.pack Format.binary64 (.finite s m e h))).toNat < 2047 := by
  have small : ¬2 ^ Format.binary64.exponentBits ≤ (e + Format.binary64.exponentBias +
      Format.binary64.mantissaBitsWithoutImplicit).toNat + 1 := by
    simp [Format.exponentBias]
    omega
  simp only [exponentBits, UnpackedFloat.pack, small, if_false]
  split
  · simp [Format.exponentBias]
    omega
  · simp

/-- Taking bits for a float and giving them back leaves a finite pattern finite. -/
theorem exponentBits_pack_unpack {b : BitVec 64} (h : (exponentBits b).toNat < 2047) :
    (exponentBits (UnpackedFloat.pack Format.binary64
      (UnpackedFloat.unpack Format.binary64 b))).toNat < 2047 := by
  have ne := exponentBits_lt_iff.1 h
  unfold UnpackedFloat.unpack
  dsimp only
  split
  · rename_i all
    exact absurd all ne
  · split
    · rename_i zero
      -- Zeros keep an empty field, and so do values below the least normal one.
      split
      · simp [UnpackedFloat.pack, UnpackedFloat.packedZero, exponentBits]
      · refine exponentBits_pack_finite ?_
        rw [zero]
        simp [Format.exponentBias]
    · refine exponentBits_pack_finite ?_
      have field : (UnpackedFloat.unpackExponent b : BitVec Format.binary64.exponentBits).toNat <
        2047 := h
      simp only [Format.exponentBias]
      omega

/-- A pattern whose exponent field is not full stands for a finite value. -/
theorem isSome_parts?_ofBits {b : UInt64} (h : b.toNat / leadingBit % 2048 < 2047) :
    (parts? (Float.ofBits b)).isSome = true := by
  have field : exponentField (Float.ofBits b) < 2047 := by
    rw [← UInt64.toNat_toBitVec, ← toNat_exponentBits] at h
    have := exponentBits_pack_unpack h
    rwa [toNat_exponentBits] at this
  unfold parts?
  simp only [beq_iff_eq, Nat.ne_of_lt field, if_false]
  split <;> rfl

/-! ### Integers as floats -/

theorem roundDiv_le (num den : Nat) : roundDiv num den ≤ num / den + 1 := by
  unfold roundDiv
  dsimp only
  split
  · omega
  · split
    · omega
    · have := Nat.mod_lt (num / den) (y := 2) (by decide)
      omega

theorem roundDiv_one (num : Nat) : roundDiv num 1 = num := by
  simp [roundDiv, Nat.mod_one]

theorem log2_one : Nat.log2 1 = 0 := by decide

theorem floorLog_one {num : Nat} (pos : num ≠ 0) : floorLog num 1 = num.log2 := by
  have le : 2 ^ num.log2 ≤ num := Nat.log2_self_le pos
  simp [floorLog, Nat.shiftLeft_eq, le, log2_one]

/-- Rounded to a multiple of its unit, an integer has no more than 53 bits. -/
theorem significand_le {num : Nat} {unit : Int} (h : unit = num.log2 - 52) :
    (if unit ≥ 0 then roundDiv num (1 <<< unit.toNat)
      else roundDiv (num <<< (-unit).toNat) 1) ≤ 2 ^ 53 := by
  have below : num < 2 ^ (num.log2 + 1) := Nat.lt_log2_self
  split
  · have shift : num.log2 + 1 = 53 + unit.toNat := by omega
    rw [shift, Nat.pow_add] at below
    rw [Nat.shiftLeft_eq, Nat.one_mul]
    have quotient := Nat.div_lt_of_lt_mul (Nat.mul_comm .. ▸ below)
    have rounded := roundDiv_le num (2 ^ unit.toNat)
    omega
  · have shift : num.log2 + 1 + (-unit).toNat = 53 := by omega
    rw [roundDiv_one, Nat.shiftLeft_eq, ← shift, Nat.pow_add]
    exact Nat.mul_le_mul_right _ (Nat.le_of_lt below)

/-- The bits of the float nearest to a word are below those of infinity. -/
theorem nearestBits_lt {num : Nat} (h : num < 2 ^ 64) : nearestBits num 1 < 2047 * leadingBit := by
  by_cases zero : num = 0
  · subst zero
    decide
  · have log : num.log2 < 64 := (Nat.log2_lt zero).2 h
    have unit : max (-1074) (floorLog num 1 - 52) = num.log2 - 52 := by
      rw [floorLog_one zero]
      omega
    -- The field grows with the length of the word, which is far from that of the largest float.
    have significand := significand_le unit
    have exponent : (max (-1074) (floorLog num 1 - 52) + 1074).toNat ≤ 1085 := by omega
    unfold nearestBits
    rw [if_neg (by simpa using zero)]
    simp only [leadingBit]
    omega

/-- The float nearest to a word is finite. -/
theorem isSome_parts?_ofInt {n : Int} (h : n.natAbs < 2 ^ 64) :
    (parts? (ofInt n)).isSome = true := by
  have bits := nearestBits_lt h
  refine isSome_parts?_ofBits ?_
  simp only [leadingBit] at bits ⊢
  split <;> simp <;> omega

end Binary

/-- The scalars nearest to words are ordinary numbers, and so are the constants of documents. -/
class Scalar.Regular (K : Type) [Scalar K] : Prop where
  word : ∀ n : Int, Word.least ≤ n → n ≤ Word.greatestUnsigned →
    Scalar.isFinite (Scalar.ofInt n : K) = true
  zero : Scalar.isFinite (0.0 : K) = true
  one : Scalar.isFinite (1.0 : K) = true
  edge : Scalar.isFinite (32.0 : K) = true

instance : Scalar.Regular Float where
  word n least greatest := by
    refine Binary.isSome_parts?_ofInt ?_
    simp only [Word.least, Word.greatestUnsigned] at least greatest
    omega
  zero := by decide +kernel
  one := by decide +kernel
  edge := by decide +kernel

instance : Scalar.Regular Rat where
  word _ _ _ := rfl
  zero := rfl
  one := rfl
  edge := rfl

/-- The integer part of an integer is that integer. -/
theorem Scalar.trunc_intCast (lo hi n : Int) :
    Scalar.trunc lo hi (n : Rat) = max lo (min hi n) := by
  have whole : (if (n : Rat) < 0 then -(-(n : Rat)).floor else (n : Rat).floor) = n := by
    split
    · rw [← Rat.intCast_neg, Rat.floor_intCast, Int.neg_neg]
    · exact Rat.floor_intCast n
  exact congrArg (fun m => max lo (min hi m)) whole

/-- Zero is not below itself. -/
class Scalar.Strict (K : Type) [Scalar K] : Prop where
  zero_lt_zero : ¬(0.0 : K) < 0.0

instance : Scalar.Strict Float where
  zero_lt_zero := by decide +kernel

instance : Scalar.Strict Rat where
  zero_lt_zero := lt_irrefl 0.0

end Playfield
