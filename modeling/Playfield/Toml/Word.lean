import Playfield.Binary
import Playfield.Toml.Basic
import Playfield.Toml.Quoted
import Playfield.Word

/-!
# Words of TOML

Truth values, numbers, dates and times are written as words, without quotes. `Toml.scanWord?` reads
one.

* Integers are decimal with a sign, or hexadecimal, octal or binary without; they lie in the range
  of words. Single underscores may stand between digits.
* Floats have a fraction, an exponent or both. One past the greatest float is refused.
* A date and a time may be joined by a space instead of a letter.
-/

namespace Playfield.Toml

/-- Characters of words. -/
def isWordChar (c : Char) : Bool := c.isAlphanum || "_+-.:".toList.contains c

/-! ### Numbers -/

/-- The digits of a row in which single underscores may stand between two. -/
def spacedDigits? (isDigit : Char → Bool) : List Char → Option (List Char)
  | [] => none
  | [c] => if isDigit c then some [c] else none
  | c :: '_' :: rest => if isDigit c then (spacedDigits? isDigit rest).map (c :: ·) else none
  | c :: rest => if isDigit c then (spacedDigits? isDigit rest).map (c :: ·) else none

/-- The number that digits write. -/
def numberOf (base : Nat) (ds : List Char) : Nat :=
  ds.foldl (fun n c => n * base + (Text.hexValue? c).getD 0) 0

/-- Decimal digits without a leading zero. -/
def wholeDigits? (cs : List Char) : Option (List Char) := do
  let ds ← spacedDigits? Char.isDigit cs
  if ds.length > 1 ∧ ds.head? = some '0' then none else some ds

/-- The sign and what follows it. -/
def splitSign : List Char → Bool × List Char
  | '-' :: rest => (true, rest)
  | '+' :: rest => (false, rest)
  | cs => (false, cs)

/-- The integer written in a base other than ten. -/
def based? (base : Nat) (cs : List Char) : Option Int := do
  let ds ← spacedDigits? (fun c => (Text.hexValue? c).any (· < base)) cs
  return numberOf base ds

/-- The integer that a word writes, of any size. -/
def integer? (cs : List Char) : Option Int :=
  match cs with
  | '0' :: 'x' :: ds => based? 16 ds
  | '0' :: 'o' :: ds => based? 8 ds
  | '0' :: 'b' :: ds => based? 2 ds
  | _ => do
    let (negative, cs) := splitSign cs
    let n : Int := numberOf 10 (← wholeDigits? cs)
    return if negative then -n else n

/-- The float nearest to `±n * 10^e`. -/
def decimalFloat (negative : Bool) (n : Nat) (e : Int) : Float :=
  let size := (Nat.toDigits 10 n).length + e
  if n = 0 ∨ size < -400 then Binary.nearest negative 0 1
  else if size > 400 then Binary.nearest negative (Nat.pow 10 400) 1
  else if e < 0 then Binary.nearest negative n (Nat.pow 10 e.natAbs)
  else Binary.nearest negative (n * Nat.pow 10 e.toNat) 1

/-- The exponent after its letter. -/
def exponent? (cs : List Char) : Option Int := do
  let (negative, cs) := splitSign cs
  let n : Int := numberOf 10 (← spacedDigits? Char.isDigit cs)
  return if negative then -n else n

/-- The character begins an exponent. -/
def isExponentMark (c : Char) : Bool := c = 'e' || c = 'E'

/-- The digits of a fraction, and the exponent. One of them must be there. -/
def fractionExponent? : List Char → Option (List Char × Int)
  | '.' :: rest => do
    let ds ← spacedDigits? Char.isDigit (rest.takeWhile (!isExponentMark ·))
    match rest.dropWhile (!isExponentMark ·) with
    | [] => return (ds, 0)
    | _ :: rest => return (ds, ← exponent? rest)
  | c :: rest => if isExponentMark c then (exponent? rest).map ([], ·) else none
  | [] => none

/-- The float that a word writes. -/
def float? (cs : List Char) : Option Float :=
  match splitSign cs with
  | (negative, ['i', 'n', 'f']) => some (decimalFloat negative 1 1000)
  | (_, ['n', 'a', 'n']) => some (0.0 / 0.0)
  | (negative, cs) => do
    let isWhole (c : Char) := c.isDigit || c = '_'
    let whole ← wholeDigits? (cs.takeWhile isWhole)
    let (fraction, e) ← fractionExponent? (cs.dropWhile isWhole)
    let x := decimalFloat negative (numberOf 10 (whole ++ fraction)) (e - fraction.length)
    if (Binary.parts? x).isSome ∨ negative then some x else none

/-! ### Dates and times -/

/-- Two digits that write a number within bounds. -/
def isPair (least greatest : Nat) (a b : Char) : Bool :=
  a.isDigit && b.isDigit && least ≤ numberOf 10 [a, b] && numberOf 10 [a, b] ≤ greatest

/-- The number of days of a month. -/
def daysIn (year month : Nat) : Nat :=
  if month = 2 then
    if year % 4 = 0 ∧ (year % 100 ≠ 0 ∨ year % 400 = 0) then 29 else 28
  else if [4, 6, 9, 11].contains month then 30
  else 31

/-- What follows a date. -/
def afterDate? : List Char → Option (List Char)
  | y :: y' :: y'' :: y''' :: '-' :: m :: m' :: '-' :: d :: d' :: rest =>
    let year := [y, y', y'', y''']
    if year.all Char.isDigit && isPair 1 12 m m' &&
        isPair 1 (daysIn (numberOf 10 year) (numberOf 10 [m, m'])) d d' then some rest
    else none
  | _ => none

/-- What follows a time of day. -/
def afterTime? : List Char → Option (List Char)
  | h :: h' :: ':' :: m :: m' :: ':' :: s :: s' :: rest =>
    if isPair 0 23 h h' && isPair 0 59 m m' && isPair 0 60 s s' then
      match rest with
      | '.' :: d :: rest => if d.isDigit then some (rest.dropWhile Char.isDigit) else none
      | rest => some rest
    else none
  | _ => none

/-- The difference to universal time. -/
def isOffset : List Char → Bool
  | ['Z'] | ['z'] => true
  | [sign, h, h', ':', m, m'] => (sign = '+' || sign = '-') && isPair 0 23 h h' && isPair 0 59 m m'
  | _ => false

/-- A time of day, perhaps with the difference to universal time. -/
def isZonedTime (cs : List Char) : Bool :=
  (afterTime? cs).any fun rest => rest.isEmpty || isOffset rest

/-- A date, a time of day, or a date and a time joined by a letter. -/
def isDateWord (cs : List Char) : Bool :=
  afterTime? cs = some [] ||
    match afterDate? cs with
    | some [] => true
    | some ('T' :: time) | some ('t' :: time) => isZonedTime time
    | _ => false

/-! ### Words -/

/-- The value that a word writes. -/
def ofWord? (cs : List Char) : Option Toml :=
  match String.ofList cs with
  | "true" => some (.bool true)
  | "false" => some (.bool false)
  | word =>
    if isDateWord cs then some (.date word)
    else
      match float? cs with
      | some x => some (.float x)
      | none => do
        let n ← integer? cs
        if Word.least ≤ n ∧ n ≤ Word.greatest then some (.int n) else none

/-- Reads a word. After a date and a space another word must be its time. -/
def scanWord? : Scan Toml := fun cs => do
  let word := cs.takeWhile isWordChar
  let rest := cs.dropWhile isWordChar
  let v ← ofWord? word
  match rest with
  | ' ' :: next =>
    let time := next.takeWhile isWordChar
    if afterDate? word = some [] ∧ time ≠ [] then
      if isZonedTime time then
        return (.date (String.ofList (word ++ ' ' :: time)), next.dropWhile isWordChar)
      else none
    else return (v, rest)
  | _ => return (v, rest)

end Playfield.Toml
