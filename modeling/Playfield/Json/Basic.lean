import Playfield.Scalar
import Playfield.Table

/-!
# JSON values

`Json K` is the type of JSON values whose fractional numbers are scalars of `K`. Whole numbers
within the range of 64-bit words stay integers, so that `3` and `3.0` differ.

* `Json.member?` and the other accessors look into a value.
* `Json.record` builds an object from members; `Json.normal` puts the members of every object into
  key order and keeps the last of those with one key.
-/

namespace Playfield

/-- A JSON value. -/
inductive Json (K : Type) where
  | null
  | bool (b : Bool)
  | int (n : Int)
  | real (x : K)
  | str (s : String)
  | arr (items : List (Json K))
  | obj (members : List (String × Json K))
  deriving Inhabited

namespace Json

variable {K : Type}

/-- The value of a member; the last one counts if a name is repeated. -/
def member? (name : String) : Json K → Option (Json K)
  | obj members => members.reverse.lookup name
  | _ => none

/-- The text of a string. -/
def text? : Json K → Option String
  | str s => some s
  | _ => none

/-- The truth value. -/
def bool? : Json K → Option Bool
  | bool b => some b
  | _ => none

/-- The integer. -/
def int? : Json K → Option Int
  | int n => some n
  | _ => none

/-- The items of an array. -/
def items? : Json K → Option (List (Json K))
  | arr items => some items
  | _ => none

/-- The members of an object. -/
def members? : Json K → Option (List (String × Json K))
  | obj members => some members
  | _ => none

/-- The number as a scalar. -/
def scalar? [Scalar K] : Json K → Option K
  | int n => some (Scalar.ofInt n)
  | real x => some x
  | _ => none

/-- The value is null. -/
def isNull : Json K → Bool
  | null => true
  | _ => false

/-- A scalar; one that is no ordinary number has no JSON form but null. -/
def scalar [Scalar K] (x : K) : Json K := if Scalar.isFinite x then real x else null

/-- A natural number. -/
def nat (n : Nat) : Json K := int n

/-- An optional value; null when it is absent. -/
def option {α : Type} (f : α → Json K) : Option α → Json K
  | some a => f a
  | none => null

/-- An array of encoded items. -/
def list {α : Type} (f : α → Json K) (l : List α) : Json K := arr (l.map f)

/-- An array of strings. -/
def strings (l : List String) : Json K := list str l

/-- An object of encoded entries. -/
def table {α : Type} (f : α → Json K) (t : Table String α) : Json K :=
  obj (t.entries.map fun e => (e.1, f e.2))

/-- A member that is left out when it is absent. -/
def optionalMember {α : Type} (name : String) (f : α → Json K) :
    Option α → List (String × Json K)
  | some a => [(name, f a)]
  | none => []

mutual
/-- The same value with the members of every object in key order, each key once. -/
def normal : Json K → Json K
  | null => null
  | bool b => bool b
  | int n => int n
  | real x => real x
  | str s => str s
  | arr items => arr (normalItems items)
  | obj members => obj (Table.ofList (normalMembers members)).entries

/-- `normal` of every item. -/
def normalItems : List (Json K) → List (Json K)
  | [] => []
  | j :: rest => normal j :: normalItems rest

/-- `normal` of every member. -/
def normalMembers : List (String × Json K) → List (String × Json K)
  | [] => []
  | (k, j) :: rest => (k, normal j) :: normalMembers rest
end

mutual
/-- Applies a function to every string of the value, the names of members excepted. -/
def mapStrings (f : String → String) : Json K → Json K
  | str s => str (f s)
  | arr items => arr (mapStringsItems f items)
  | obj members => obj (mapStringsMembers f members)
  | other => other

/-- `mapStrings` of every item. -/
def mapStringsItems (f : String → String) : List (Json K) → List (Json K)
  | [] => []
  | j :: rest => mapStrings f j :: mapStringsItems f rest

/-- `mapStrings` of every member. -/
def mapStringsMembers (f : String → String) : List (String × Json K) → List (String × Json K)
  | [] => []
  | (k, j) :: rest => (k, mapStrings f j) :: mapStringsMembers f rest
end

end Json

end Playfield
