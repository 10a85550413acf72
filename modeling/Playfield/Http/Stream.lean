import Playfield.Http.Token
import Playfield.Lobby.Room
import Playfield.Text.Split

/-!
# Streams of states

A stream shows a viewer the state of a session again and again, until the client closes it or the
session is gone. `Stream.period` is the time between two states.

* `Headers.isHandshake` recognises a request for a stream.
* A `Stream` holds what the client has sent and what the server has sent. `hear` answers the
  signals of the client, `present` sends a state.
-/

namespace Playfield

/-- The headers ask for the connection to become a stream. -/
def Headers.isHandshake (h : Headers) : Bool :=
  (h.get? "connection").any (fun v => Text.occurs "upgrade".toList v.toLower.toList) &&
    (h.get? "upgrade").any (·.toLower == "websocket") &&
    h.get? "sec-websocket-version" == some "13" &&
    (h.get? "sec-websocket-key").isSome

/-- What a client sends on a stream. -/
inductive Signal where
  | text
  | ping (data : String)
  | close
  deriving DecidableEq, Repr

/-- What a client receives on a stream. -/
inductive Message (K : Type) where
  | state (view : StateView K)
  | pong (data : String)
  /-- The end of the stream. -/
  | closed

/-- The stream of a client. -/
structure Stream (K : Type) where
  session : String
  viewer : Viewer
  /-- When the next state is due. -/
  due : Nat
  isOpen : Bool := true
  /-- Signals of the client that were not heard yet. -/
  unheard : List Signal := []
  /-- Messages that the client has not looked at. -/
  unseen : List (Message K) := []

namespace Stream

/-- The milliseconds of a tick, at least one tick a second and at most a thousand. -/
def tickMs (tickRate : Nat) : Nat := 1000 / max tickRate 1

/-- The milliseconds between two states: a tick, but not less than a given time, nor nothing. -/
def period (tickRate leastMs : Nat) : Nat := max (max (tickMs tickRate) leastMs) 1

variable {K : Type}

/-- Sends a message. -/
def send (s : Stream K) (m : Message K) : Stream K := { s with unseen := s.unseen ++ [m] }

/-- Ends a stream. -/
def close (s : Stream K) : Stream K := { s.send .closed with isOpen := false }

/-- Answers one signal of the client. -/
def hearOne (s : Stream K) (signal : Signal) : Stream K :=
  if s.isOpen then
    match signal with
    | .text => s
    | .ping data => s.send (.pong data)
    | .close => s.close
  else s

/-- Answers the signals of the client. -/
def hear (s : Stream K) : Stream K := { s.unheard.foldl hearOne s with unheard := [] }

/-- A state is due. -/
def isDue (s : Stream K) (now : Nat) : Bool := s.isOpen && decide (s.due ≤ now)

/-- Sends a state, or ends the stream if there is none. -/
def present (s : Stream K) (period : Nat) (state : Except SessionError (StateView K)) : Stream K :=
  match state with
  | .ok view => { s.send (.state view) with due := s.due + period }
  | .error _ => s.close

end Stream

namespace Message

def toJson {K : Type} [Scalar K] : Message K → Json K
  | state view => view.toJson
  | pong data => .obj [("pong", .str data)]
  | closed => .str "closed"

end Message

end Playfield
