import Playfield.Binary

/-!
# Decimal numerals

From floats to decimal digits.

* `Decimal.shortest` is the shortest numeral that reads back as the same float: of the decimals that
  round to it, one with the fewest digits, and of those the nearest.
* `Decimal.render` writes digits positionally or with an exponent, as a `Layout` says.
-/

namespace Playfield

/-- The non-negative decimal `digits * 10^exponent`. -/
structure Decimal where
  digits : Nat
  exponent : Int
  deriving DecidableEq, Repr

namespace Decimal

/-- Without trailing zeros, trying at most the given number of times. -/
def strip : Nat → Decimal → Decimal
  | 0, d => d
  | n + 1, d =>
    if d.digits % 10 = 0 then strip n ⟨d.digits / 10, d.exponent + 1⟩ else d

/-- The reals that round to one float, as numerators over a common denominator. -/
structure Interval where
  low : Nat
  value : Nat
  high : Nat
  denominator : Nat
  /-- Whether the ends round to the float too. -/
  closed : Bool

/-- The reals that round to a positive value. The lower half of the interval is smaller where the
next smaller float has a smaller exponent. -/
def Interval.of (p : Binary.Parts) : Interval :=
  let m := p.significand
  let below := if m = Binary.leadingBit ∧ p.exponent > -1074 then 1 else 2
  let up := (p.exponent - 2).toNat
  ⟨(4 * m - below) <<< up, (4 * m) <<< up, (4 * m + 2) <<< up, 1 <<< (2 - p.exponent).toNat,
    m % 2 = 0⟩

/-- The point `c * 10^s` lies in the interval. -/
def Interval.holds (i : Interval) (c : Nat) (s : Int) : Bool :=
  let point := c * Nat.pow 10 s.toNat * i.denominator
  let scale := Nat.pow 10 (-s).toNat
  if i.closed then i.low * scale ≤ point && point ≤ i.high * scale
  else i.low * scale < point && point < i.high * scale

/-- The neighbour on the grid of multiples of `10^s` that lies in the interval; of two the nearer
one, and the even one when they are equally near. -/
def Interval.gridPoint? (i : Interval) (s : Int) : Option Nat :=
  let value := i.value * Nat.pow 10 (-s).toNat
  let unit := i.denominator * Nat.pow 10 s.toNat
  let c := value / unit
  match i.holds c s, i.holds (c + 1) s with
  | true, false => some c
  | false, true => some (c + 1)
  | false, false => none
  | true, true =>
    let r := 2 * (value % unit)
    if r < unit ∨ (r = unit ∧ c % 2 = 0) then some c else some (c + 1)

/-- The least `k` with value below `10^k`, starting from a low guess. -/
def Interval.magnitude (i : Interval) : Nat → Int → Int
  | 0, k => k
  | n + 1, k =>
    if i.value * Nat.pow 10 (-k).toNat < i.denominator * Nat.pow 10 k.toNat then k
    else i.magnitude n (k + 1)

/-- Tries grids of more and more digits, the first with `17 - n` of them. -/
def Interval.search (i : Interval) (k : Int) : Nat → Decimal
  | 0 => ⟨(i.gridPoint? (k - 17)).getD 0, k - 17⟩
  | n + 1 =>
    let s := k - (16 - n : Nat)
    match i.gridPoint? s with
    | some c => ⟨c, s⟩
    | none => i.search k n

/-- The shortest numeral of a finite non-zero magnitude, without trailing zeros. -/
def shortest (p : Binary.Parts) : Decimal :=
  if p.significand = 0 then ⟨0, 0⟩
  else
    let i := Interval.of p
    let guess := (((p.significand.log2 : Int) + p.exponent) * 30103).fdiv 100000 - 1
    strip 20 (i.search (i.magnitude 5 guess) 16)

/-- Where positional notation ends: it is used when the decimal point falls after more than `low`
and at most `high` digits. -/
structure Layout where
  low : Int
  high : Int

/-- Writes a numeral: positionally with at least one digit on either side of the point, or as one
digit, the others, and an exponent with its sign. -/
def render (layout : Layout) (d : Decimal) : String :=
  let ds := Nat.toDigits 10 d.digits
  let point : Int := ds.length + d.exponent
  let zeros (n : Int) : List Char := List.replicate n.toNat '0'
  if layout.low < point ∧ point ≤ layout.high then
    if point ≤ 0 then String.ofList ('0' :: '.' :: zeros (-point) ++ ds)
    else if d.exponent ≥ 0 then String.ofList (ds ++ zeros d.exponent ++ ['.', '0'])
    else String.ofList (ds.take point.toNat ++ '.' :: ds.drop point.toNat)
  else
    let e := (if point > 0 then "+" else "").toList ++ (toString (point - 1)).toList
    match ds with
    | [d] => String.ofList (d :: 'e' :: e)
    | d :: rest => String.ofList (d :: '.' :: rest ++ 'e' :: e)
    | [] => ""

end Decimal

end Playfield
