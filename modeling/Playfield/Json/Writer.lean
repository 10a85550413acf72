import Playfield.Decimal
import Playfield.Json.Basic

/-!
# Writing JSON

`Json.compact` is the text of a value without blanks, members in the order of the value.

* Numbers with a fraction are written with the fewest digits that read back, always with a point
  or an exponent; positionally up to sixteen digits before the point and five zeros after it.
* Strings escape quotes, backslashes and control characters, and nothing else.
-/

namespace Playfield.Json

/-- Where numbers switch to an exponent. -/
def numeralLayout : Decimal.Layout := ⟨-5, 16⟩

/-- The numeral of a finite float; null for the others. -/
def numeral (x : Float) : String :=
  match Binary.parts? x with
  | some p =>
    (if p.negative then "-" else "") ++
      if p.significand = 0 then "0.0" else (Decimal.shortest p).render numeralLayout
  | none => "null"

/-- The hexadecimal digit of a number below sixteen. -/
def hexDigit (n : Nat) : Char := Nat.digitChar n

/-- A character inside a string literal. -/
def escape (c : Char) : List Char :=
  match c with
  | '"' => ['\\', '"']
  | '\\' => ['\\', '\\']
  | '\n' => ['\\', 'n']
  | '\r' => ['\\', 'r']
  | '\t' => ['\\', 't']
  | '\x08' => ['\\', 'b']
  | '\x0c' => ['\\', 'f']
  | c =>
    if c.toNat < 32 then
      ['\\', 'u', '0', '0', hexDigit (c.toNat / 16), hexDigit (c.toNat % 16)]
    else [c]

/-- A string literal. -/
def quote (s : String) : String := String.ofList ('"' :: s.toList.flatMap escape ++ ['"'])

mutual
/-- The text of a value. -/
def compact : Json Float → String
  | null => "null"
  | bool true => "true"
  | bool false => "false"
  | int n => toString n
  | real x => numeral x
  | str s => quote s
  | arr items => "[" ++ ",".intercalate (compactItems items) ++ "]"
  | obj members => "\x7b" ++ ",".intercalate (compactMembers members) ++ "\x7d"

/-- The texts of all items. -/
def compactItems : List (Json Float) → List String
  | [] => []
  | j :: rest => compact j :: compactItems rest

/-- The texts of all members. -/
def compactMembers : List (String × Json Float) → List String
  | [] => []
  | (k, j) :: rest => (quote k ++ ":" ++ compact j) :: compactMembers rest
end

end Playfield.Json
