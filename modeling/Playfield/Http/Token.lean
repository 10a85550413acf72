import Playfield.Json.Basic
import Playfield.Text.Blank

/-!
# Tokens in requests

A request may carry a token in its `Authorization` header, in its query or in its body.
`Token.resolve` takes it from the first of these that is there, and does not go on to the next if
that one is malformed.

* `Headers.get?` ignores the case of names and takes the first of several values.
* `Token.ofBearer` reads the value of a header: the scheme `bearer` in any case, one space, and the
  token, from which blanks at the ends are removed.
-/

namespace Playfield

/-- Names and values of a request's headers. -/
abbrev Headers := List (String × String)

namespace Headers

/-- The value of the first header of a name. -/
def get? (h : Headers) (name : String) : Option String :=
  (h.find? fun e => e.1.toLower == name.toLower).map (·.2)

/-- The value consists of visible ASCII characters, spaces and tabs. -/
def isPlain (value : String) : Bool := value.toList.all fun c => c = '\t' || (' ' ≤ c && c ≤ '~')

end Headers

/-- Why a request carries no token. -/
inductive TokenError where
  | missing | invalidFormat | empty
  deriving DecidableEq, Repr, Inhabited

/-- The wording of a token error. -/
def TokenError.message : TokenError → String
  | missing => "Authorization token not provided"
  | invalidFormat => "Invalid authorization token format"
  | empty => "Authorization token is empty"

namespace Token

/-- The token that a text holds: the text without the blanks at its ends. -/
def ofText (text : List Char) : Except TokenError String :=
  match Text.trimList text with
  | [] => .error .empty
  | cs => .ok (String.ofList cs)

/-- The token of a header with a scheme. -/
def ofBearer (value : String) : Except TokenError String :=
  let scheme := value.toList.takeWhile (· ≠ ' ')
  match value.toList.dropWhile (· ≠ ' ') with
  | [] => .error .invalidFormat
  | _ :: token =>
    if (String.ofList scheme).toLower = "bearer" then ofText token else .error .invalidFormat

/-- The token of the headers. -/
def ofHeaders (h : Headers) : Except TokenError String :=
  match h.get? "authorization" with
  | none => .error .missing
  | some value => if Headers.isPlain value then ofBearer value else .error .invalidFormat

/-- The token in a member of a body. -/
def ofBody {K : Type} (body : Json K) : Except TokenError String :=
  match body.member? "token" with
  | none => .error .missing
  | some (.str "") => .error .empty
  | some (.str token) => .ok token
  | some _ => .error .invalidFormat

/-- The token of a request. -/
def resolve {K : Type} (h : Headers) (query : Option String) (body : Option (Json K)) :
    Except TokenError String :=
  match ofHeaders h with
  | .error .missing =>
    match query, body with
    | some token, _ => ofText token.toList
    | none, some body => ofBody body
    | none, none => .error .missing
  | decided => decided

end Token

end Playfield
