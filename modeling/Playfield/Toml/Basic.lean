/-!
# TOML values

`Toml` is the type of TOML values. Tables remember how they came to be, since that decides what may
still be added to them.

* `Toml.Entries.edit` goes down a path of keys, making the tables that are missing.
* `addEntry`, `addTable` and `addElement` are what a key with a value, a header and a header of an
  array element do to a document. Each is refused where something would be defined twice.
-/

namespace Playfield

/-- How a table came to be. -/
inductive Toml.Origin where
  /-- Written in braces; complete. -/
  | inline
  /-- It has a header of its own, is an element of an array of tables or is the document. -/
  | header
  /-- It occurs in the header of a table inside it. -/
  | implied
  /-- It occurs in the key of an entry inside it. -/
  | dotted
  deriving DecidableEq, Repr, Inhabited

/-- A TOML value. -/
inductive Toml where
  | bool (b : Bool)
  | int (n : Int)
  | float (x : Float)
  | text (s : String)
  /-- A date, a time of day or both, as written. -/
  | date (s : String)
  | array (items : List Toml)
  | table (origin : Toml.Origin) (entries : List (String × Toml))
  /-- The array of tables that headers make. -/
  | tables (items : List (List (String × Toml)))
  deriving Inhabited

namespace Toml

/-- The entries of a table, each key once. -/
abbrev Entries := List (String × Toml)

namespace Entries

/-- Gives a key that has a value another one. -/
def replace (key : String) (v : Toml) (e : Entries) : Entries :=
  e.map fun old => if old.1 = key then (key, v) else old

/-- Edits the table at the end of a path. Tables that are missing on the way are made: by the path
of an entry if it is `dotted`, else by that of a header. Of an array of tables the last one is
meant. -/
def edit (dotted : Bool) (f : Origin → Entries → Option Entries) :
    List String → Origin → Entries → Option Entries
  | [], origin, e => f origin e
  | key :: path, _, e =>
    match e.lookup key with
    | none => do
      let origin := if dotted then Origin.dotted else .implied
      let inner ← edit dotted f path origin []
      return e ++ [(key, .table origin inner)]
    | some (.table origin inner) =>
      if origin = .inline ∨ dotted ∧ origin = .header then none
      else do
        let inner ← edit dotted f path origin inner
        return e.replace key (.table origin inner)
    | some (.tables items) => do
      let inner ← edit dotted f path .header (← items.getLast?)
      return e.replace key (.tables (items.dropLast ++ [inner]))
    | some _ => none

/-- Adds a value under a path, of which all but the last key name tables made by such paths. -/
def addValue (path : List String) (key : String) (v : Toml) (origin : Origin) (e : Entries) :
    Option Entries :=
  edit true (fun origin e =>
    if path ≠ [] ∧ origin ≠ .dotted then none
    else if (e.lookup key).isSome then none
    else some (e ++ [(key, v)])) path origin e

/-- Adds an entry to the table of a header. -/
def addEntry (table path : List String) (key : String) (v : Toml) (document : Entries) :
    Option Entries :=
  edit false (addValue path key v) table .header document

/-- Adds a table with a header. It may be there already if only headers inside it implied it. -/
def addTable (path : List String) (key : String) (document : Entries) : Option Entries :=
  edit false (fun _ e =>
    match e.lookup key with
    | none => some (e ++ [(key, .table .header [])])
    | some (.table .implied inner) => some (e.replace key (.table .header inner))
    | some _ => none) path .header document

/-- Adds an element to an array of tables. -/
def addElement (path : List String) (key : String) (document : Entries) : Option Entries :=
  edit false (fun _ e =>
    match e.lookup key with
    | none => some (e ++ [(key, .tables [[]])])
    | some (.tables items) => some (e.replace key (.tables (items ++ [[]])))
    | some _ => none) path .header document

end Entries

end Toml

end Playfield
