import Playfield.Http.Endpoint
import Playfield.Http.MediaType
import Playfield.Http.Stream
import Playfield.Lobby.Limits.Reader
import Playfield.Lobby.Requests

/-!
# Answers of a lobby

`Lobby.answer` answers a request from outside: it looks for the endpoint, reads what the request
says, asks who sends it, and only then turns to the lobby.

* A request to a session must carry a token of that session; `Lobby.identify` finds out whose it is.
* Sessions may be opened by anyone, unless the lobby has an administrator's token. The limits can be
  changed only with that token.
* Any path answers `OPTIONS`.
-/

namespace Playfield

/-- A response with a JSON body. -/
def Response.ofJson (body : Json Float) : Response := { status := 200, body := some body }

/-- What a role asks for at once. -/
structure CommandBatch (K : Type) where
  commands : List (Command K)
  /-- A pass follows. -/
  pass : Bool

namespace CommandBatch

def decode {K : Type} : Decoder K (CommandBatch K) := fun d => do
  let ms ← Decoder.record ["commands", "tick"] d
  return {
    commands := ← ms.required "commands" (Decoder.list Command.decode)
    pass := ← ms.member "tick" Decoder.bool false }

end CommandBatch

/-- The member that a request to join must have. -/
def decodeInvite {K : Type} : Decoder K String := fun d => do
  (← Decoder.record ["invite"] d).required "invite" Decoder.text

namespace Request

variable {α : Type}

/-- Takes a body for a value. -/
def decode (d : Decoder Float α) (unfit : RequestError) (body : Json Float) :
    Except RequestError α :=
  match d body.toDraft with
  | some a => .ok a
  | none => .error unfit

/-- The id of a session in a path. -/
def sessionId (written : String) : Except RequestError String :=
  match Target.plain? written with
  | some id => .ok id
  | none => .error .malformedId

/-- The body is called JSON. -/
def hasJsonType (r : Request) : Bool :=
  match r.headers.get? "content-type" with
  | some type => Headers.isPlain type && (MediaType.ofText? type).any MediaType.isJson
  | none => false

/-- What a request to open a session asks for. If there is an administrator's token, it must carry
that token. -/
def options (r : Request) (adminToken : Option String) :
    Except RequestError (SessionOptions Float) := do
  let query ← r.token?
  let body ← r.json
  let provided := (Token.resolve r.headers query body).toOption
  if !adminToken.all (provided == some ·) then throw (.session .unauthorized)
  match body with
  | some body => decode SessionOptions.decode .unfitRequest body
  | none => return {}

/-- The invite in a request to join. -/
def invite (r : Request) : Except RequestError String := do
  match ← r.json with
  | some body => decode decodeInvite .unfitJoin body
  | none => throw .missingInvite

/-- The request may change limits: its header is the scheme `Bearer`, a space and the
administrator's token. -/
def mayChangeLimits (r : Request) (adminToken : Option String) : Bool :=
  match adminToken, r.headers.get? "authorization" with
  | some token, some value => Headers.isPlain value && value == "Bearer " ++ token
  | _, _ => false

/-- The new limits in a request. -/
def limitsUpdate (r : Request) (adminToken : Option String) :
    Except RequestError Limits.Update := do
  if !r.hasJsonType then throw .unsupportedMediaType
  let update ← (Limits.Update.read r.body).mapError fun
    | .malformed => .malformedLimits
    | .unfit => .unfitLimits
  if !r.mayChangeLimits adminToken then throw .limitsForbidden
  if !update.isPositive then throw .zeroLimit
  return update

end Request

/-- A request to a session, from a known viewer. -/
structure Admission where
  session : String
  viewer : Viewer
  body : Option (Json Float)

namespace Lobby

variable {τ α : Type}

/-- The answer to a request from outside, and the lobby that it leaves. -/
abbrev Outcome (τ : Type) := Except RequestError Response × Lobby Float τ

/-- Tells a client of a reply. -/
def Reply.tell (r : Reply Float τ α) (tell : α → Response) : Outcome τ :=
  ((r.1.map tell).mapError .session, r.2)

/-- Answers a question. -/
def tell (l : Lobby Float τ) (answer : Except SessionError α) (tell : α → Json Float) :
    Outcome τ :=
  ((answer.map fun a => .ofJson (tell a)).mapError .session, l)

/-- Goes on with what a request says, or refuses it. -/
def after (l : Lobby Float τ) (said : Except RequestError α) (go : α → Outcome τ) : Outcome τ :=
  match said with
  | .error e => (.error e, l)
  | .ok a => go a

/-- Finds out who sends a request to a session. -/
def identify (l : Lobby Float τ) (r : Request) (id : String) (hasBody : Bool) :
    Except RequestError Admission := do
  let session ← Request.sessionId id
  let query ← r.token?
  let body ← if hasBody then r.json else pure none
  match Token.resolve r.headers query body with
  | .error _ => throw (.session .unauthorized)
  | .ok token =>
    let viewer ← (l.authorize session token).mapError .session
    return { session, viewer, body }

/-- The response to a change of a session's clock. -/
def statusResponse (session : String) (status : Status) : Response :=
  .ofJson (.obj [("session_id", .str session), ("status", .str status.name)])

/-- Does what a viewer asks of a session. -/
def perform (l : Lobby Float τ) (a : Admission) : SessionAction → Outcome τ
  | .start => (l.start a.session a.viewer).tell (statusResponse a.session)
  | .stop => (l.stop a.session a.viewer).tell (statusResponse a.session)
  | .pace =>
    let update := match a.body with
      | some body => Request.decode PaceUpdate.decode .unfitRequest body
      | none => .ok {}
    l.after update fun update =>
      (l.updatePace a.session a.viewer update).tell fun pace => .ofJson pace.toJson
  | .commands =>
    let batch := match a.body with
      | some body => Request.decode CommandBatch.decode .unfitCommands body
      | none => .error .missingCommands
    l.after batch fun batch =>
      (l.submit a.session a.viewer batch.commands batch.pass).tell fun s => .ofJson s.toJson
  | .frame => l.tell (l.picture a.session a.viewer) Picture.toJson
  | .state => l.tell (l.state a.session a.viewer) StateView.toJson
  | .tools => l.tell (l.tools a.session a.viewer) (.list Tool.toJson)
  | .remove => (l.remove a.session a.viewer).tell fun _ => { status := 204 }

/-- Joins a session with the invite in a request. -/
def answerJoin (l : Lobby Float τ) (r : Request) (id : String) : Outcome τ :=
  l.after (do return (← Request.sessionId id, ← r.invite)) fun (session, invite) =>
    (l.join session invite).tell fun joined => .ofJson joined.toJson

/-- Tells of the limits, or changes them. -/
def answerLimits (l : Lobby Float τ) (adminToken : Option String) (r : Request) : Outcome τ :=
  if r.method = .put then
    l.after (r.limitsUpdate adminToken) fun update =>
      let limits := update.apply l.limits
      (.ok (.ofJson limits.toJson), { l with limits })
  else (.ok (.ofJson l.limits.toJson), l)

/-- Who asks for the stream of a session. The token is looked at before the method. -/
def admitStream (l : Lobby Float τ) (r : Request) (id : String) :
    Except RequestError Admission := do
  let a ← l.identify r id false
  if r.method ≠ .get then throw .methodNotAllowed
  if !r.headers.isHandshake then throw .badHandshake
  return a

/-- Does what an endpoint is for. -/
def serve (l : Lobby Float τ) (adminToken : Option String) (fresh : Fresh) (r : Request) :
    Endpoint → Outcome τ
  | .sessions =>
    l.after (r.options adminToken) fun options =>
      (l.create fresh options).tell fun created => .ofJson created.toJson
  | .session id action => l.after (l.identify r id action.hasBody) fun a => l.perform a action
  | .join id => l.answerJoin r id
  | .stream id => l.after (l.admitStream r id) fun _ => (.error .upgradeRequired, l)
  | .limits => l.answerLimits adminToken r

/-- The method is not allowed at an endpoint. Streams find that out for themselves. -/
def refusesMethod (r : Request) : Endpoint → Bool
  | .stream _ => false
  | e => !e.admits r.method

/-- Answers a request that is not about a stream of its own. -/
def answer (l : Lobby Float τ) (adminToken : Option String) (fresh : Fresh) (r : Request) :
    Outcome τ :=
  if r.method = .options then (.ok { status := 200 }, l)
  else
    match Endpoint.ofPath? r.target.path with
    | none => (.error .unknownPath, l)
    | some e =>
      if refusesMethod r e then (.error .methodNotAllowed, l) else l.serve adminToken fresh r e

/-- The response to a request. One to `HEAD` has no body. -/
def respond (l : Lobby Float τ) (adminToken : Option String) (fresh : Fresh) (r : Request) :
    Response × Lobby Float τ :=
  let (answer, l) := l.answer adminToken fresh r
  let response := match answer with
    | .ok response => response
    | .error e => e.response
  (if r.method = .head then { response with body := none } else response, l)

end Lobby

end Playfield
