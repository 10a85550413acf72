import Playfield.Http.Target
import Playfield.Http.Token
import Playfield.Json.Reader
import Playfield.Session.Basic

/-!
# Requests, responses and refusals

* `RequestError` lists why a request is refused; `status` and `message?` say how the client learns
  of it.
* `Request.json` and `Request.token?` read the body and the query of a request.
-/

namespace Playfield

/-- What a request asks to do. -/
inductive Method where
  | get | head | post | put | delete | options
  | other (name : String)
  deriving DecidableEq, Repr

/-- The method of a name. Case matters. -/
def Method.ofName : String → Method
  | "GET" => get
  | "HEAD" => head
  | "POST" => post
  | "PUT" => put
  | "DELETE" => delete
  | "OPTIONS" => options
  | name => other name

/-- What a client sends. -/
structure Request where
  method : Method
  target : Target
  headers : Headers := []
  body : String := ""

/-- What a client is told. -/
structure Response where
  status : Nat
  body : Option (Json Float) := none

/-- Why a request is refused. -/
inductive RequestError where
  /-- No endpoint has the path. -/
  | unknownPath
  | methodNotAllowed
  /-- The id in the path is no text. -/
  | malformedId
  /-- The query names more than one token. -/
  | repeatedToken
  /-- The body is not JSON. -/
  | malformedBody
  /-- The body is JSON, but not what the endpoint asks for. -/
  | unfitRequest
  | unfitJoin
  | unfitCommands
  | missingInvite
  | missingCommands
  /-- The body is not called JSON where it must be. -/
  | unsupportedMediaType
  /-- New limits that are not JSON. -/
  | malformedLimits
  /-- New limits that are JSON, but not limits. -/
  | unfitLimits
  | zeroLimit
  /-- The limits are not for this client to change. -/
  | limitsForbidden
  /-- The client does not ask for a stream as it should. -/
  | badHandshake
  /-- The connection cannot become a stream. -/
  | upgradeRequired
  | session (error : SessionError)
  deriving DecidableEq, Repr

/-- The status that tells of a failed request about a session. -/
def SessionError.Kind.status : SessionError.Kind → Nat
  | validation => 400
  | unauthorized => 401
  | notFound => 404
  | conflict => 409
  | internal => 500

namespace RequestError

/-- The status of a refusal. -/
def status : RequestError → Nat
  | unknownPath => 404
  | methodNotAllowed => 405
  | unsupportedMediaType => 415
  | unfitLimits => 422
  | limitsForbidden => 401
  | upgradeRequired => 426
  | session error => error.kind.status
  | _ => 400

/-- The wording of a refusal, if it has one. Of a body that does not fit only this is said. -/
def message? : RequestError → Option String
  | malformedBody => some "Invalid JSON body: "
  | unfitRequest => some "Invalid request: "
  | unfitJoin => some "Invalid join request: "
  | unfitCommands => some "Invalid command batch: "
  | missingInvite => some "Missing invite"
  | missingCommands => some "Missing command batch"
  | zeroLimit => some "Limits must be positive"
  | limitsForbidden => some "Unauthorized"
  | session error => some error.message
  | _ => none

/-- The response that tells of a refusal. -/
def response (e : RequestError) : Response :=
  { status := e.status
    body := e.message?.map fun text => .obj [("error", .str text)] }

end RequestError

namespace Request

/-- The characters that make a body blank. -/
def isBlankChar (c : Char) : Bool := c = ' ' || c = '\t' || c = '\n' || c = '\x0c' || c = '\r'

/-- The body as JSON; a blank body counts as none. -/
def json (r : Request) : Except RequestError (Option (Json Float)) :=
  if r.body.toList.all isBlankChar then .ok none
  else
    match Json.parse? r.body with
    | some body => .ok (some body)
    | none => .error .malformedBody

/-- The token in the query. -/
def token? (r : Request) : Except RequestError (Option String) :=
  match r.target.query.values "token" with
  | [] => .ok none
  | [token] => .ok (some token)
  | _ => .error .repeatedToken

end Request

end Playfield
