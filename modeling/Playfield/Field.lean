import Playfield.Json.Decode

/-!
# Typed fields

Actors, roles and the world carry named fields. A schema declares the fields of one type of actors.

* `FieldValue.conform` fits a value to a declared type; integers widen to floats, nothing else
  changes its type.
* `buildFields` makes the fields of a new actor: with a schema every declared field is present and
  of its type, without one the given values are taken as they are.
* `checkField` is the test for one assignment.
-/

namespace Playfield

/-- The declared type of a field. -/
inductive FieldType where
  | int | float | bool | string | list
  deriving DecidableEq, Repr, Inhabited

/-- The name of a type. -/
def FieldType.name : FieldType → String
  | int => "int"
  | float => "float"
  | bool => "bool"
  | string => "string"
  | list => "list"

/-- The type of a name. -/
def FieldType.ofName? : String → Option FieldType
  | "int" => some int
  | "float" => some float
  | "bool" => some bool
  | "string" => some string
  | "list" => some list
  | _ => none

/-- All types. -/
def FieldType.all : List FieldType := [int, float, bool, string, list]

/-- The value of a field. -/
inductive FieldValue (K : Type) where
  | bool (b : Bool)
  | int (n : Int)
  | float (x : K)
  | str (s : String)
  | list (items : List (FieldValue K))
  deriving Inhabited

/-- Field values by name. -/
abbrev Fields (K : Type) := Table String (FieldValue K)

/-- The declared fields of one type of actors. -/
abbrev Schema := Table String FieldType

variable {K : Type}

namespace FieldValue

/-- The type of a value. -/
def type : FieldValue K → FieldType
  | bool _ => .bool
  | int _ => .int
  | float _ => .float
  | str _ => .string
  | list _ => .list

/-- The value of a declared field that was not supplied. -/
def zero [Scalar K] : FieldType → FieldValue K
  | .int => int 0
  | .float => float 0.0
  | .bool => bool false
  | .string => str ""
  | .list => list []

/-- Fits a value to a type. -/
def conform [Scalar K] (v : FieldValue K) (t : FieldType) : Option (FieldValue K) :=
  match v, t with
  | int n, .float => some (float (Scalar.ofInt n))
  | v, t => if v.type = t then some v else none

/-- The integer, of a value of that type. -/
def int? : FieldValue K → Option Int
  | int n => some n
  | _ => none

/-- The number as a scalar. -/
def scalar? [Scalar K] : FieldValue K → Option K
  | int n => some (Scalar.ofInt n)
  | float x => some x
  | _ => none

/-- The truth value, of a value of that type. -/
def bool? : FieldValue K → Option Bool
  | bool b => some b
  | _ => none

/-- The text, of a value of that type. -/
def text? : FieldValue K → Option String
  | str s => some s
  | _ => none

mutual
/-- Equality of type and value; numbers of different types differ. -/
def same [Scalar K] : FieldValue K → FieldValue K → Bool
  | bool a, bool b => a == b
  | int a, int b => a == b
  | float a, float b => a == b
  | str a, str b => a == b
  | list as, list bs => sameItems as bs
  | _, _ => false

/-- `same`, item by item. -/
def sameItems [Scalar K] : List (FieldValue K) → List (FieldValue K) → Bool
  | [], [] => true
  | a :: as, b :: bs => same a b && sameItems as bs
  | _, _ => false
end

mutual
/-- The JSON form: the bare value. -/
def toJson [Scalar K] : FieldValue K → Json K
  | bool b => .bool b
  | int n => .int n
  | float x => .scalar x
  | str s => .str s
  | list items => .arr (itemsToJson items)

/-- The JSON forms of all items. -/
def itemsToJson [Scalar K] : List (FieldValue K) → List (Json K)
  | [] => []
  | v :: rest => toJson v :: itemsToJson rest
end

mutual
/-- Takes a draft for a field value. Null and objects are none. -/
def decode [Scalar K] : Decoder K (FieldValue K)
  | .bool b => some (bool b)
  | .int n => some (if n ≤ Word.greatest then int n else float (Scalar.ofInt n))
  | .real x => some (float x)
  | .str s => some (str s)
  | .arr items => (decodeItems items).map list
  | _ => none

/-- Takes all items for field values. -/
def decodeItems [Scalar K] : List (Draft K) → Option (List (FieldValue K))
  | [] => some []
  | d :: rest => do
    let v ← decode d
    let vs ← decodeItems rest
    return v :: vs
end

end FieldValue

/-- The JSON form of fields. -/
def Fields.toJson [Scalar K] (f : Fields K) : Json K := .table FieldValue.toJson f

/-- Takes a draft for fields. -/
def Fields.decode [Scalar K] : Decoder K (Fields K) := Decoder.table FieldValue.decode

/-- Why an assignment does not fit a schema. -/
inductive SchemaError where
  | unknownField (field : String)
  | typeMismatch (field : String) (expected found : FieldType)
  deriving DecidableEq, Repr

/-- The wording of a schema error. -/
def SchemaError.message : SchemaError → String
  | unknownField field => s!"unknown field '{field}'"
  | typeMismatch field expected found =>
    s!"field '{field}' expects {expected.name} but got {found.name}"

/-- The value to store for an assignment to a declared field. -/
def checkField [Scalar K] (schema : Schema) (name : String) (v : FieldValue K) :
    Except SchemaError (FieldValue K) :=
  match schema.get? name with
  | none => .error (.unknownField name)
  | some t =>
    match v.conform t with
    | some v => .ok v
    | none => .error (.typeMismatch name t v.type)

/-- Makes assignments in order. -/
def assignFields [Scalar K] (schema : Schema) :
    Fields K → List (String × FieldValue K) → Except SchemaError (Fields K)
  | fields, [] => .ok fields
  | fields, (name, v) :: rest =>
    match checkField schema name v with
    | .ok v => assignFields schema (fields.insert name v) rest
    | .error e => .error e

/-- The fields of a new actor, from the defaults of its type and its own values. -/
def buildFields [Scalar K] (schema : Option Schema) (defaults own : Fields K) :
    Except SchemaError (Fields K) :=
  match schema with
  | none => .ok (defaults.insertAll own.entries)
  | some schema =>
    assignFields schema (schema.map fun _ t => FieldValue.zero t) (defaults.entries ++ own.entries)

end Playfield
