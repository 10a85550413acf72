import Playfield.Http.Message

/-!
# Endpoints

What the paths of targets lead to, and which methods are allowed there.

* `Endpoint.ofPath?` compares the parts of a path as they are written, with their escapes.
* Where `GET` is allowed, so is `HEAD`.
-/

namespace Playfield

/-- What a viewer can do with a session. -/
inductive SessionAction where
  | start | stop | pace | commands | frame | state | tools | remove
  deriving DecidableEq, Repr

namespace SessionAction

/-- The action that ends a path. -/
def ofName? : String → Option SessionAction
  | "start" => some start
  | "stop" => some stop
  | "pace" => some pace
  | "commands" => some commands
  | "frame" => some frame
  | "state" => some state
  | "tools" => some tools
  | _ => none

/-- The method of an action. -/
def method : SessionAction → Method
  | start | stop | commands => .post
  | pace => .put
  | frame | state | tools => .get
  | remove => .delete

/-- The action has a body, which may carry the token. -/
def hasBody : SessionAction → Bool
  | start | stop | pace | commands => true
  | frame | state | tools | remove => false

end SessionAction

/-- What a path leads to. The ids of sessions are as they were written. -/
inductive Endpoint where
  | sessions
  | session (id : String) (action : SessionAction)
  | join (id : String)
  | stream (id : String)
  | limits
  deriving DecidableEq, Repr

namespace Endpoint

/-- What the parts of a path lead to. -/
def ofPath? : List String → Option Endpoint
  | ["", "api", "sessions"] => some sessions
  | ["", "api", "sessions", id] => if id.isEmpty then none else some (session id .remove)
  | ["", "api", "sessions", id, "join"] => some (join id)
  | ["", "api", "sessions", id, "stream"] => some (stream id)
  | ["", "api", "sessions", id, action] => (SessionAction.ofName? action).map (session id)
  | ["", "api", "admin", "config"] => some limits
  | _ => none

/-- The methods of an endpoint. -/
def methods : Endpoint → List Method
  | sessions | join _ => [.post]
  | session _ action => [action.method]
  | stream _ => [.get]
  | limits => [.get, .put]

/-- A method is allowed. -/
def admits (e : Endpoint) (m : Method) : Bool :=
  e.methods.contains m || (m = .head && e.methods.contains .get)

end Endpoint

end Playfield
