/-!
# Media types

A media type names the form of a body: a type, a subtype that may end in a suffix after a plus sign,
and parameters, as in `application/vnd.x+json; charset=utf-8`.

* `MediaType.ofText?` reads one. No blanks stand before a semicolon, but for those after quotes.
* `MediaType.isJson` holds for `application/json` and for suffixes `json`, in any case of letters.
* Of parameters only the form is tested, by `Parameter.step`, one character at a time.
-/

namespace Playfield

/-- The form of a body. -/
structure MediaType where
  type : String
  /-- The subtype up to its suffix. -/
  subtype : String
  suffix : Option String
  deriving DecidableEq, Repr

namespace MediaType

/-- Characters of names and of values without quotes. -/
def isNameChar (c : Char) : Bool :=
  c.isAlphanum || "!#$%&'*+-.^_`|~".toList.contains c

/-- Characters between quotes. -/
def isQuotedChar (c : Char) : Bool := ' ' ≤ c && c ≠ '\x7f'

/-- Where in the parameters a reader is. -/
inductive Parameter where
  /-- In a name, or in the spaces before it if it is empty so far. -/
  | name (empty : Bool)
  | value (empty : Bool)
  | quoted (empty : Bool)
  | afterQuotes
  deriving DecidableEq, Repr

namespace Parameter

/-- Takes one character. Between quotes a quote at the start is a character like any other. -/
def step (p : Parameter) (c : Char) : Option Parameter :=
  match p with
  | name empty =>
    if empty ∧ c = ' ' then some (name true)
    else if isNameChar c then some (name false)
    else if c = '=' ∧ !empty then some (value true)
    else none
  | value empty =>
    if empty ∧ c = '"' then some (quoted true)
    else if isNameChar c then some (value false)
    else if c = ';' ∧ !empty then some (name true)
    else none
  | quoted empty =>
    if c = '"' ∧ !empty then some afterQuotes
    else if isQuotedChar c then some (quoted false)
    else none
  | afterQuotes =>
    if c = ';' then some (name true)
    else if c = ' ' then some afterQuotes
    else none

/-- The parameters may end here. -/
def mayEnd : Parameter → Bool
  | name empty => empty
  | value _ => true
  | quoted _ => false
  | afterQuotes => true

/-- Characters form parameters. -/
def isList (cs : List Char) : Bool := (cs.foldlM step (name true)).any mayEnd

end Parameter

/-- A subtype and its suffix, which follows the last plus sign. A plus sign at the start belongs to
the subtype. -/
def ofSubtype (type cs : List Char) : MediaType :=
  let suffix := (cs.reverse.takeWhile (· ≠ '+')).reverse
  let subtype := cs.take (cs.length - suffix.length - 1)
  if subtype.isEmpty then ⟨String.ofList type, String.ofList cs, none⟩
  else ⟨String.ofList type, String.ofList subtype, some (String.ofList suffix)⟩

/-- Reads a media type. -/
def ofText? (text : String) : Option MediaType :=
  let type := text.toList.takeWhile isNameChar
  match text.toList.dropWhile isNameChar with
  | '/' :: rest =>
    let subtype := rest.takeWhile isNameChar
    let isForm := match rest.dropWhile isNameChar with
      | [] => !type.isEmpty
      | ';' :: parameters =>
        !type.isEmpty && !subtype.isEmpty && Parameter.isList parameters
      | _ => false
    if isForm then some (ofSubtype type subtype) else none
  | _ => none

/-- Bodies of this type are JSON. -/
def isJson (m : MediaType) : Bool :=
  m.type.toLower == "application" &&
    (m.subtype.toLower == "json" || m.suffix.any (·.toLower == "json"))

end MediaType

end Playfield
