import Playfield.Binary
import Playfield.Json.Draft
import Playfield.Word

/-!
# JSON numerals

`Numeral.scan?` reads a numeral: digits, then a fraction and an exponent if they are there.
`Numeral.draft` is what it stands for.

* Without fraction and exponent it is an integer if it lies in the range of words. `-0` is a real,
  since integers have no negative zero.
* Otherwise it is a real: the leading digits that fit into an unsigned word, rounded to a float and
  then scaled by a power of ten, which rounds again. So a numeral of many digits may miss the
  nearest float.
* A real past the greatest float is void.
-/

namespace Playfield.Json

/-- A numeral without its sign. -/
structure Numeral where
  whole : List Char
  fraction : List Char := []
  exponent : Option Int := none
  deriving DecidableEq, Repr

namespace Numeral

/-- The value of a digit. -/
def digitValue (c : Char) : Nat := c.toNat - 48

/-- The number that digits write. -/
def value (ds : List Char) : Nat := ds.foldl (fun n c => n * 10 + digitValue c) 0

/-- Appends digits to a number as long as it fits into an unsigned word. Also gives the digits that
are left. -/
def append (n : Nat) : List Char → Nat × List Char
  | [] => (n, [])
  | c :: rest =>
    let m := n * 10 + digitValue c
    if m ≤ Word.greatestUnsigned then append m rest else (n, c :: rest)

/-- The float nearest to `10^n`. -/
def powerOfTen (n : Nat) : Float := Binary.nearest false (Nat.pow 10 n) 1

/-- Divides by `10^n`, in steps for which the power is a float. -/
def divide (x : Float) (n : Nat) : Float :=
  if n ≤ 308 then x / powerOfTen n
  else if x == 0.0 then x
  else divide (x / powerOfTen 308) (n - 308)
termination_by n

/-- `n * 10^e`, if it is not past the greatest float. -/
def scale? (n : Nat) (e : Int) : Option Float :=
  let x := Binary.ofInt n
  if e < 0 then some (divide x e.natAbs)
  else if e ≤ 308 then
    let y := x * powerOfTen e.toNat
    if (Binary.parts? y).isSome then some y else none
  else if n = 0 then some x
  else none

/-- The magnitude as a float. Digits of the whole part that do not fit count as zeros, those of the
fraction not at all. -/
def magnitude? (n : Numeral) : Option Float :=
  let (m, dropped) := append 0 n.whole
  let (m, left) := append m n.fraction
  scale? m (dropped.length + left.length - n.fraction.length + n.exponent.getD 0)

/-- The real with a sign. -/
def realDraft (negative : Bool) (n : Numeral) : Draft Float :=
  match n.magnitude? with
  | some x => .real (if negative then -x else x)
  | none => .void

/-- What a numeral with a sign stands for. -/
def draft (negative : Bool) (n : Numeral) : Draft Float :=
  match n.fraction, n.exponent with
  | [], none =>
    let v := value n.whole
    if negative then
      if 0 < v ∧ Word.least ≤ -(v : Int) then .int (-(v : Int)) else n.realDraft true
    else if v ≤ Word.greatestUnsigned then .int v
    else n.realDraft false
  | _, _ => n.realDraft negative

/-- The leading digits, and what follows them. -/
def digits (cs : List Char) : List Char × List Char :=
  (cs.takeWhile Char.isDigit, cs.dropWhile Char.isDigit)

theorem length_of_digits {cs ds rest : List Char} (h : digits cs = (ds, rest)) :
    ds.length + rest.length = cs.length := by
  obtain ⟨rfl, rfl⟩ := Prod.mk.inj h
  rw [← List.length_append, List.takeWhile_append_dropWhile]

/-- Reads a whole part. No digit follows a leading zero. -/
def scanWhole : List Char → Option (List Char × List Char)
  | '0' :: rest => if rest.head?.any Char.isDigit then none else some (['0'], rest)
  | cs =>
    match digits cs with
    | ([], _) => none
    | found => some found

/-- Reads a fraction with its point, if there is one. -/
def scanFraction : List Char → Option (List Char × List Char)
  | '.' :: rest =>
    match digits rest with
    | ([], _) => none
    | found => some found
  | rest => some ([], rest)

/-- The characters after a sign, and whether it is a minus. -/
def scanSign : List Char → Bool × List Char
  | '-' :: rest => (true, rest)
  | '+' :: rest => (false, rest)
  | rest => (false, rest)

theorem length_scanSign (cs : List Char) : (scanSign cs).2.length ≤ cs.length := by
  unfold scanSign
  split <;> simp

/-- Reads the sign and the digits of an exponent. -/
def scanPower (cs : List Char) : Option (Int × List Char) :=
  let (negative, rest) := scanSign cs
  match digits rest with
  | ([], _) => none
  | (ds, rest) => some (if negative then -(value ds : Int) else value ds, rest)

/-- Reads an exponent with its letter, if there is one. -/
def scanExponent : List Char → Option (Option Int × List Char)
  | 'e' :: rest => (scanPower rest).map fun (n, rest) => (some n, rest)
  | 'E' :: rest => (scanPower rest).map fun (n, rest) => (some n, rest)
  | rest => some (none, rest)

theorem length_of_scanWhole {cs ds rest : List Char} (h : scanWhole cs = some (ds, rest)) :
    rest.length < cs.length := by
  unfold scanWhole at h
  split at h
  · split at h <;> simp_all
  · rcases hd : digits cs with ⟨_ | ⟨c, ds'⟩, r⟩
    · simp [hd] at h
    · simp only [hd, Option.some.injEq, Prod.mk.injEq] at h
      have := length_of_digits hd
      simp only [List.length_cons, ← h.2] at *
      omega

theorem length_of_scanFraction {cs ds rest : List Char} (h : scanFraction cs = some (ds, rest)) :
    rest.length ≤ cs.length := by
  unfold scanFraction at h
  split at h
  · rename_i cs
    rcases hd : digits cs with ⟨_ | ⟨c, ds'⟩, r⟩
    · simp [hd] at h
    · simp only [hd, Option.some.injEq, Prod.mk.injEq] at h
      have := length_of_digits hd
      simp only [List.length_cons, ← h.2] at *
      omega
  · simp_all

theorem length_of_scanPower {cs rest : List Char} {n : Int} (h : scanPower cs = some (n, rest)) :
    rest.length ≤ cs.length := by
  have hs := length_scanSign cs
  unfold scanPower at h
  split at h
  rename_i negative r hr
  split at h
  · simp at h
  · rename_i ds r' hne hd
    obtain ⟨-, rfl⟩ : _ ∧ r' = rest := by simpa using h
    have := length_of_digits hd
    rw [hr] at hs
    simp only at hs
    omega

theorem length_of_scanExponent {cs rest : List Char} {e : Option Int}
    (h : scanExponent cs = some (e, rest)) : rest.length ≤ cs.length := by
  unfold scanExponent at h
  split at h
  · obtain ⟨⟨n, r⟩, hp, hr⟩ := Option.map_eq_some_iff.1 h
    obtain ⟨-, rfl⟩ := Prod.mk.inj hr
    exact Nat.le_succ_of_le (length_of_scanPower hp)
  · obtain ⟨⟨n, r⟩, hp, hr⟩ := Option.map_eq_some_iff.1 h
    obtain ⟨-, rfl⟩ := Prod.mk.inj hr
    exact Nat.le_succ_of_le (length_of_scanPower hp)
  · simp_all

/-- Reads a numeral, after its sign. -/
def scan? (cs : List Char) : Option (Numeral × List Char) := do
  let (whole, rest) ← scanWhole cs
  let (fraction, rest) ← scanFraction rest
  let (exponent, rest) ← scanExponent rest
  return (⟨whole, fraction, exponent⟩, rest)

theorem length_of_scan {cs rest : List Char} {n : Numeral} (h : scan? cs = some (n, rest)) :
    rest.length < cs.length := by
  simp only [scan?, Option.bind_eq_bind, Option.bind_eq_some_iff] at h
  obtain ⟨⟨whole, r⟩, hw, ⟨fraction, r'⟩, hf, ⟨exponent, r''⟩, he, h⟩ := h
  have hw := length_of_scanWhole hw
  have hf := length_of_scanFraction hf
  have he := length_of_scanExponent he
  obtain ⟨-, rfl⟩ : _ ∧ r'' = rest := by simpa using h
  exact Nat.lt_of_le_of_lt he (Nat.lt_of_le_of_lt hf hw)

end Numeral

end Playfield.Json
