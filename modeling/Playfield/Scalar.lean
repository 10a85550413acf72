import Playfield.Binary

/-!
# The arithmetic of the simulation

Positions, velocities, sizes and times are values of a type `K` of scalars. Every definition of the
simulation is generic in `K`, so that each is at once

* a computation on `Float`, in the order the arithmetic is written, and
* a function on exact rationals, about which laws of motion can be stated.

`Scalar` asks only for operations; which laws hold depends on the instance.
-/

namespace Playfield

/-- A type of real quantities: field operations, decimal constants, comparisons and rounding. -/
class Scalar (K : Type) extends Add K, Sub K, Mul K, Div K, Neg K, OfScientific K, LT K, LE K,
    BEq K where
  /-- The scalar nearest to an integer. -/
  ofInt : Int → K
  /-- The largest integer that is not above. -/
  floor : K → K
  /-- The integer part, held between two bounds. -/
  trunc (lo hi : Int) : K → Int
  /-- Whether the scalar is an ordinary number. -/
  isFinite : K → Bool
  /-- The order, as a test. -/
  below (a b : K) : Bool
  below_iff (a b : K) : below a b = true ↔ a < b
  /-- The weak order, as a test. -/
  atMost (a b : K) : Bool
  atMost_iff (a b : K) : atMost a b = true ↔ a ≤ b

instance Scalar.decidableLT {K : Type} [Scalar K] : DecidableLT K :=
  fun a b => decidable_of_iff _ (Scalar.below_iff a b)

instance Scalar.decidableLE {K : Type} [Scalar K] : DecidableLE K :=
  fun a b => decidable_of_iff _ (Scalar.atMost_iff a b)

instance : Scalar Float where
  ofInt := Binary.ofInt
  floor := Float.floor
  trunc := Binary.trunc
  isFinite x := (Binary.parts? x).isSome
  below a b := decide (a < b)
  below_iff _ _ := decide_eq_true_iff
  atMost a b := decide (a ≤ b)
  atMost_iff _ _ := decide_eq_true_iff

instance : Scalar Rat where
  ofInt n := n
  floor x := x.floor
  trunc lo hi x := max lo (min hi (if x < 0 then -(-x).floor else x.floor))
  isFinite _ := true
  below a b := decide (a < b)
  below_iff _ _ := decide_eq_true_iff
  atMost a b := decide (a ≤ b)
  atMost_iff _ _ := decide_eq_true_iff

namespace Scalar

variable {K : Type} [Scalar K]

/-- The magnitude. -/
def abs (x : K) : K := if x < 0.0 then -x else x

/-- The smallest integer that is not below. -/
def ceil (x : K) : K := -floor (-x)

/-- `1` or `-1`, for a scalar that is not zero. -/
def sign (x : K) : K := if x < 0.0 then -1.0 else 1.0

/-- Half of a length. -/
def half (x : K) : K := x * 0.5

end Scalar

end Playfield
