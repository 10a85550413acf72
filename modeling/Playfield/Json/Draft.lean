import Playfield.Json.Basic

/-!
# Drafts of JSON values

A `Draft` is what a JSON text says before it is taken for a value of some type. It still shows what
a value no longer does:

* members in the order written, with repetitions;
* literals of correct form that stand for no value: numbers past the greatest scalar, strings with
  a lone surrogate, arrays and objects nested too deeply. All are `Draft.void`.
* whether the names of an object's members were written without escapes.

Typed decoding ignores unknown members, also void ones, and refuses everything else that is void.
`Draft.toJson?` takes a whole draft for a value, and `Json.toDraft` goes back.
-/

namespace Playfield

/-- A JSON text after reading and before decoding. -/
inductive Draft (K : Type) where
  | null
  | bool (b : Bool)
  | int (n : Int)
  | real (x : K)
  | str (s : String)
  | arr (items : List (Draft K))
  | obj (verbatim : Bool) (members : List (String × Draft K))
  /-- Well-formed text that stands for no value. -/
  | void
  deriving Inhabited

variable {K : Type}

namespace Draft

mutual
/-- The value that a draft stands for, in normal form. -/
def toJson? : Draft K → Option (Json K)
  | null => some .null
  | bool b => some (.bool b)
  | int n => some (.int n)
  | real x => some (.real x)
  | str s => some (.str s)
  | arr items => (itemsToJson? items).map .arr
  | obj _ members => (membersToJson? members).map fun ms => .obj (Table.ofList ms).entries
  | void => none

/-- The values of all items. -/
def itemsToJson? : List (Draft K) → Option (List (Json K))
  | [] => some []
  | d :: rest => do
    let j ← toJson? d
    let js ← itemsToJson? rest
    return j :: js

/-- The values of all members. -/
def membersToJson? : List (String × Draft K) → Option (List (String × Json K))
  | [] => some []
  | (k, d) :: rest => do
    let j ← toJson? d
    let js ← membersToJson? rest
    return (k, j) :: js
end

/-- No part of the draft is void. -/
def isSound (d : Draft K) : Bool := d.toJson?.isSome

end Draft

namespace Json

mutual
/-- The draft that writes down a value. -/
def toDraft : Json K → Draft K
  | null => .null
  | bool b => .bool b
  | int n => .int n
  | real x => .real x
  | str s => .str s
  | arr items => .arr (itemsToDraft items)
  | obj members => .obj true (membersToDraft members)

/-- The drafts of all items. -/
def itemsToDraft : List (Json K) → List (Draft K)
  | [] => []
  | j :: rest => toDraft j :: itemsToDraft rest

/-- The drafts of all members. -/
def membersToDraft : List (String × Json K) → List (String × Draft K)
  | [] => []
  | (k, j) :: rest => (k, toDraft j) :: membersToDraft rest
end

end Json

end Playfield
