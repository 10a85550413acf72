/-!
# Binary floating point, exactly

The finite values of `Float` as integers times powers of two, and the value nearest to a fraction.

* `Binary.Parts` is sign, significand and exponent of a finite value; `parts?` reads them from the
  bits.
* `nearest num den` is the float nearest to `num / den`, ties to the even significand.
* `trunc` is the integer part, held between two bounds.
-/

namespace Playfield.Binary

/-- The finite value `(-1)^negative * significand * 2^exponent`. -/
structure Parts where
  negative : Bool
  significand : Nat
  exponent : Int
  deriving DecidableEq, Repr

/-- The bit before the significand field, `2^52`. -/
def leadingBit : Nat := 0x10000000000000

/-- The sign bit. -/
def signBit (x : Float) : Bool := x.toBits.toNat >>> 63 == 1

/-- The biased exponent field. -/
def exponentField (x : Float) : Nat := x.toBits.toNat / leadingBit % 2048

/-- The significand field, without the leading bit. -/
def fractionField (x : Float) : Nat := x.toBits.toNat % leadingBit

/-- The parts of a finite value; infinities and NaN have none. -/
def parts? (x : Float) : Option Parts :=
  let e := exponentField x
  if e == 2047 then none
  else if e == 0 then some ⟨signBit x, fractionField x, -1074⟩
  else some ⟨signBit x, leadingBit + fractionField x, (e : Int) - 1075⟩

/-- `num / den` rounded to the nearest integer, ties to even. -/
def roundDiv (num den : Nat) : Nat :=
  let q := num / den
  let r := 2 * (num % den)
  if r < den then q
  else if den < r then q + 1
  else q + q % 2

/-- The largest `e` with `2^e ≤ num / den`, for positive `num` and `den`. -/
def floorLog (num den : Nat) : Int :=
  let l : Int := (num.log2 : Int) - den.log2
  if l ≥ 0 then (if den <<< l.toNat ≤ num then l else l - 1)
  else (if den ≤ num <<< (-l).toNat then l else l - 1)

/-- The bits of the non-negative float nearest to `num / den`; too large a value gives infinity. -/
def nearestBits (num den : Nat) : Nat :=
  if num == 0 then 0
  else
    let unit := max (-1074) (floorLog num den - 52)
    let significand :=
      if unit ≥ 0 then roundDiv num (den <<< unit.toNat)
      else roundDiv (num <<< (-unit).toNat) den
    min (2047 * leadingBit) ((unit + 1074).toNat * leadingBit + significand)

/-- The float nearest to `±num / den`. -/
def nearest (negative : Bool) (num den : Nat) : Float :=
  Float.ofBits (UInt64.ofNat (nearestBits num den + if negative then 0x8000000000000000 else 0))

/-- The float nearest to an integer. -/
def ofInt (n : Int) : Float := nearest (n < 0) n.natAbs 1

/-- The integer part of the magnitude. -/
def Parts.magnitude (p : Parts) : Nat :=
  if p.exponent ≥ 0 then p.significand <<< p.exponent.toNat
  else p.significand >>> (-p.exponent).toNat

/-- The integer part of `x`, held between `lo` and `hi`: an infinity goes to its end of the range
and a NaN counts as zero. -/
def trunc (lo hi : Int) (x : Float) : Int :=
  match parts? x with
  | some p =>
    let n : Int := if p.negative then -(p.magnitude : Int) else p.magnitude
    max lo (min hi n)
  | none =>
    if fractionField x != 0 then max lo (min hi 0) else if signBit x then lo else hi

end Playfield.Binary
