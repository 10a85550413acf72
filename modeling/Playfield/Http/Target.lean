import Playfield.Text.Hex
import Playfield.Text.Split
import Playfield.Text.Utf8

/-!
# Targets of requests

The target of a request names what it is about: a path and a query. In both a percent sign and two
hexadecimal digits stand for a byte.

* `Target.ofText` takes a target apart: a number sign ends it, and the first question mark begins
  the query. A target may name its server in front, as in `http://host:80/path`; that part says
  nothing about what the request is about.
* `Target.plain?` reads a part of a path, which must be UTF-8 without its escapes.
* `Query.ofText` reads names and values. There a plus sign is a space, and what is not UTF-8 is
  replaced.
-/

namespace Playfield

namespace Escaped

/-- The bytes of a text. Percent signs that begin no escape stand for themselves. -/
def bytes : List Char → List UInt8
  | [] => []
  | '%' :: a :: b :: rest =>
    match Text.hexValue? a, Text.hexValue? b with
    | some high, some low => UInt8.ofNat (16 * high + low) :: bytes rest
    | _, _ => Utf8.encode ['%'] ++ bytes (a :: b :: rest)
  | c :: rest => Utf8.encode [c] ++ bytes rest

end Escaped

/-- Names and values, in the order given. -/
abbrev Query := List (String × String)

namespace Query

/-- A name or a value without its escapes. -/
def plain (cs : List Char) : String :=
  String.ofList (Utf8.decodeLossy (Escaped.bytes (cs.map fun c => if c = '+' then ' ' else c)))

/-- A name and its value, which is empty where no equals sign follows the name. -/
def pair (cs : List Char) : String × String :=
  let (name, value) := Text.cut '=' cs
  (plain name, plain (value.getD []))

/-- Reads a query. -/
def ofText (cs : List Char) : Query := ((Text.split '&' cs).filter fun p => !p.isEmpty).map pair

/-- The values of a name. -/
def values (q : Query) (name : String) : List String := (q.filter (·.1 == name)).map (·.2)

end Query

/-- What a request is about. -/
structure Target where
  /-- The parts of the path between its slashes, with their escapes. -/
  path : List String
  query : Query := []
  deriving DecidableEq, Repr

namespace Target

/-- The character may stand in the scheme of a target. -/
def isSchemeChar (c : Char) : Bool := c.isAlphanum || c = '+' || c = '-' || c = '.'

/-- The character ends the name of a server. -/
def endsServer (c : Char) : Bool := c = '/' || c = '?' || c = '#'

/-- A target without its scheme and server. If they are all of it before the query, the path is a
slash. One that names no server stays as it is. -/
def withoutServer (cs : List Char) : List Char :=
  match cs.dropWhile isSchemeChar with
  | ':' :: '/' :: '/' :: rest =>
    if rest.takeWhile (!endsServer ·) = [] then cs
    else
      match rest.dropWhile (!endsServer ·) with
      | '/' :: path => '/' :: path
      | query => '/' :: query
  | _ => cs

/-- Takes a target apart. -/
def ofText (text : String) : Target :=
  let (path, query) := Text.cut '?' (Text.cut '#' (withoutServer text.toList)).1
  { path := (Text.split '/' path).map String.ofList
    query := Query.ofText (query.getD []) }

/-- A part of a path without its escapes. -/
def plain? (part : String) : Option String :=
  (Utf8.decode? (Escaped.bytes part.toList)).map String.ofList

end Target

end Playfield
