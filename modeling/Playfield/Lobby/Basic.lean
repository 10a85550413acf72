import Playfield.Game
import Playfield.Lobby.Event
import Playfield.Lobby.Limits

/-!
# The lobby

A `Lobby` holds the sessions of one game by id, the tokens and invites that open them, the seeds it
has given away and the store.

* `Lobby.authorize` says what a token grants within a session.
* `Lobby.record` writes an event to the store.

Whatever a request does, it answers with a value or a `SessionError` and leaves a lobby, which after
a refusal is mostly the one it found.
-/

namespace Playfield

/-- What a token grants: the access of a viewer to a session. -/
structure Grant where
  session : String
  viewer : Viewer
  deriving DecidableEq, Repr, Inhabited

/-- What an invite leads to. -/
structure Invitation where
  session : String
  role : String
  deriving DecidableEq, Repr, Inhabited

/-- The sessions of a game and the ways into them. -/
structure Lobby (K τ : Type) where
  game : Game K τ
  rooms : Table String (Room K τ) := ∅
  tokens : Table String Grant := ∅
  invites : Table String Invitation := ∅
  /-- The seeds that this lobby has given away. -/
  seeds : NameSet := ∅
  store : Store K := {}
  /-- How many random seeds are tried before a creation gives up. -/
  maxSeedAttempts : Nat := 8
  limits : Limits := {}

/-- The answer of a request and the lobby that it leaves. -/
abbrev Lobby.Reply (K τ α : Type) := Except SessionError α × Lobby K τ

namespace Lobby

variable {K τ α : Type}

/-- The number of sessions. -/
def count (l : Lobby K τ) : Nat := l.rooms.entries.length

/-- The session of an id. -/
def room (l : Lobby K τ) (id : String) : Except SessionError (Room K τ) :=
  match l.rooms.get? id with
  | some room => .ok room
  | none => .error (.notFound id)

/-- Puts a session in its place. -/
def setRoom (l : Lobby K τ) (id : String) (r : Room K τ) : Lobby K τ :=
  { l with rooms := l.rooms.insert id r }

/-- What a token grants within a session. -/
def authorize (l : Lobby K τ) (id token : String) : Except SessionError Viewer := do
  let _ ← l.room id
  match l.tokens.get? token with
  | none => .error .unauthorized
  | some grant => if grant.session = id then .ok grant.viewer else .error .unauthorized

/-- The viewer is an administrator. -/
def requireAdmin : Viewer → Except SessionError Unit
  | .admin => .ok ()
  | .role _ => .error .unauthorized

/-- The session of an id, for an administrator. -/
def adminRoom (l : Lobby K τ) (id : String) (v : Viewer) : Except SessionError (Room K τ) := do
  requireAdmin v
  l.room id

/-- Writes an event of a session to the store, and answers if the store takes it. -/
def record [Scalar K] (l : Lobby K τ) (id : String) (e : SessionEvent K) (answer : α) :
    Reply K τ α :=
  match l.store.append id e.type e.payload e.tick? with
  | .ok (_, store) => (.ok answer, { l with store })
  | .error err => (.error (.ofStore err), l)

end Lobby

end Playfield
