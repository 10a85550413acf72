import Playfield.Json.Draft
import Playfield.Word

/-!
# Typed decoding

A `Decoder K α` takes the draft of a JSON text for a value of `α`, or refuses it.

* Numbers: integers decode within the range of their width and never from a real; scalars decode
  from integers too.
* Records: `record` refuses an object that repeats a known member. An array gives the known members
  in their order, and may end early. `required`, `member` and `optional` read one member. Unknown
  members are ignored.
* Variants: `tagged` reads the name of a variant, then the record of that variant.
* Names: `named` decodes a value that is written as its name.
-/

namespace Playfield

variable {K : Type} {α β : Type}

/-- A partial function from drafts. -/
abbrev Decoder (K α : Type) := Draft K → Option α

namespace Decoder

/-- A truth value. -/
def bool : Decoder K Bool
  | .bool b => some b
  | _ => none

/-- A string. -/
def text : Decoder K String
  | .str s => some s
  | _ => none

/-- A string of exactly one character. -/
def char : Decoder K Char
  | .str s => match s.toList with
    | [c] => some c
    | _ => none
  | _ => none

/-- An integer within bounds. -/
def int (least greatest : Int) : Decoder K Int
  | .int n => if least ≤ n ∧ n ≤ greatest then some n else none
  | _ => none

/-- A natural number within a bound. -/
def nat (greatest : Nat) : Decoder K Nat := fun d => (int 0 greatest d).map Int.toNat

/-- A signed word. -/
def word : Decoder K Int := int Word.least Word.greatest

/-- An unsigned word. -/
def count : Decoder K Nat := nat Word.greatestUnsigned

/-- An unsigned half word. -/
def half : Decoder K Nat := nat Word.greatestHalf

/-- A signed half word. -/
def signedHalf : Decoder K Int := int (-0x80000000) 0x7fffffff

/-- A scalar. -/
def scalar [Scalar K] : Decoder K K
  | .real x => some x
  | .int n => some (Scalar.ofInt n)
  | _ => none

/-- Any value, in normal form. -/
def json : Decoder K (Json K) := Draft.toJson?

/-- An array. -/
def list (d : Decoder K α) : Decoder K (List α)
  | .arr items => items.mapM d
  | _ => none

/-- Null or a value. -/
def nullable (d : Decoder K α) : Decoder K (Option α)
  | .null => some none
  | draft => (d draft).map some

/-- An object whose members all have values of one type. -/
def table (d : Decoder K α) : Decoder K (Table String α)
  | .obj _ members => (members.mapM fun m => (d m.2).map (m.1, ·)).map Table.ofList
  | _ => none

/-- A value written as its name. The name may also be the only member of an object, whose value is
then null; a draft that was `buffered` to look at its tag first also admits an empty object. -/
def named (buffered : Bool) (ofName? : String → Option α) : Decoder K α
  | .str s => ofName? s
  | .obj _ [(s, .null)] => ofName? s
  | .obj _ [(s, .obj _ [])] => if buffered then ofName? s else none
  | _ => none

end Decoder

/-- The members of a record. -/
structure Members (K : Type) where
  entries : List (String × Draft K)

/-- The members of a record, if no known one is repeated. The items of an array are the first of
the known members. -/
def Decoder.record (known : List String) : Decoder K (Members K)
  | .obj _ members =>
    if known.all fun name => members.countP (·.1 == name) ≤ 1 then some ⟨members⟩ else none
  | .arr items => if items.length ≤ known.length then some ⟨known.zip items⟩ else none
  | _ => none

/-- The members of an object. -/
def Decoder.object : Decoder K (Members K)
  | .obj _ members => some ⟨members⟩
  | _ => none

namespace Members

/-- A member that must be present. -/
def required (ms : Members K) (name : String) (d : Decoder K α) : Option α :=
  ms.entries.lookup name >>= d

/-- A member with a value for its absence. -/
def member (ms : Members K) (name : String) (d : Decoder K α) (absent : α) : Option α :=
  match ms.entries.lookup name with
  | some draft => d draft
  | none => some absent

/-- A member that may be absent or null. -/
def optional (ms : Members K) (name : String) (d : Decoder K α) : Option (Option α) :=
  ms.member name (Decoder.nullable d) none

end Members

/-- One of several records, told by the member `type` of an object or by the first item of an array.
As the tag may come last, the whole draft is read before the record is. -/
def Decoder.tagged (variant : String → Decoder K α) : Decoder K α := fun d =>
  if d.isSound then
    match d with
    | .arr (tag :: rest) => do variant (← text tag) (.arr rest)
    | .arr [] => none
    | _ => do
      let ms ← record ["type"] d
      variant (← ms.required "type" text) d
  else none

end Playfield
