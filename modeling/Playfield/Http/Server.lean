import Playfield.Http.Answer

/-!
# The server

A `Server` is a lobby in time. It answers requests, keeps a clock for every session that runs, and
sends states on streams.

* `Server.request` answers a request; `Server.connect` opens a connection that may become a stream.
* `Server.sleep` lets milliseconds pass, and in each of them `Server.instant` does what is due.
  Nothing else takes time.
-/

namespace Playfield

/-- The clock of a session that runs. -/
structure Clock where
  /-- When the session is next advanced. -/
  due : Nat
  /-- By how much it is advanced then. -/
  elapsedMs : Nat := 0
  deriving DecidableEq, Repr

/-- A lobby in time. -/
structure Server (τ : Type) where
  lobby : Lobby Float τ
  adminToken : Option String := none
  /-- Sessions that run have clocks. -/
  runsClocks : Bool := true
  /-- The least time between two states of a stream. -/
  streamMinMs : Nat := 50
  /-- The milliseconds since the server began. -/
  now : Nat := 0
  /-- The clocks, by the ids of their sessions. -/
  clocks : Table String Clock := ∅
  /-- The connections in the order in which they were opened. Those refused are no streams. -/
  streams : List (Option (Stream Float)) := []

namespace Server

variable {τ : Type}

/-- The ticks of a session in a second. -/
def tickRate (s : Server τ) : Nat := s.lobby.game.scene.multiplayer.tickRate

/-- The milliseconds between two advances of a clock. -/
def clockPeriod (s : Server τ) : Nat := max (Stream.tickMs s.tickRate) 1

/-- The milliseconds between two states of a stream. -/
def streamPeriod (s : Server τ) : Nat := Stream.period s.tickRate s.streamMinMs

/-- Starts the clocks of sessions that run now, and drops those of sessions that do not. -/
def windClocks (s : Server τ) : Server τ :=
  let running := s.lobby.rooms.filter fun _ room => s.runsClocks && room.status = .running
  { s with clocks := running.map fun id _ => (s.clocks.get? id).getD { due := s.now } }

/-- Puts in place the lobby that an answer left. -/
def settle (s : Server τ) (lobby : Lobby Float τ) : Server τ := { s with lobby }.windClocks

/-- Answers a request. -/
def request (s : Server τ) (fresh : Fresh) (r : Request) : Response × Server τ :=
  let (response, lobby) := s.lobby.respond s.adminToken fresh r
  (response, s.settle lobby)

/-- Opens a stream for an admitted client. -/
def addStream (s : Server τ) (a : Admission) : Server τ :=
  let stream : Stream Float := { session := a.session, viewer := a.viewer, due := s.now }
  { s with streams := s.streams ++ [some stream] }

/-- Opens a connection with a request. It becomes a stream if the request is a handshake for one.
Gives the status of the response. -/
def connect (s : Server τ) (fresh : Fresh) (r : Request) : Nat × Server τ :=
  let admitted := match Endpoint.ofPath? r.target.path with
    | some (.stream id) => (s.lobby.admitStream r id).toOption
    | _ => none
  match admitted with
  | some a => (101, s.addStream a)
  | none =>
    let (response, s) := s.request fresh r
    (response.status, { s with streams := s.streams ++ [none] })

/-- Edits the stream of a connection. -/
def modifyStream (s : Server τ) (number : Nat) (f : Stream Float → Stream Float) : Server τ :=
  { s with streams := s.streams.modify number (·.map f) }

/-- Takes a signal of a client, to be heard later. -/
def signal (s : Server τ) (number : Nat) (signal : Signal) : Server τ :=
  s.modifyStream number fun stream => { stream with unheard := stream.unheard ++ [signal] }

/-- What a client has received since it last looked. -/
def receive (s : Server τ) (number : Nat) : List (Message Float) × Server τ :=
  let unseen := match s.streams[number]? with
    | some (some stream) => stream.unseen
    | _ => []
  (unseen, s.modifyStream number fun stream => { stream with unseen := [] })

/-- Milliseconds in seconds. -/
def seconds (ms : Nat) : Float := Binary.ofInt ms / 1000

/-- Advances the session of a clock that is due, whether that succeeds or not. -/
def advanceClock (s : Server τ) (id : String) (clock : Clock) : Server τ :=
  if clock.due ≤ s.now then
    { s with
      lobby := (s.lobby.advanceClock id (seconds clock.elapsedMs)).2
      clocks := s.clocks.insert id ⟨clock.due + s.clockPeriod, s.clockPeriod⟩ }
  else s

/-- Sends the state on a stream if it is due. -/
def present (s : Server τ) (stream : Stream Float) : Stream Float :=
  let stream := stream.hear
  if stream.isDue s.now then
    stream.present s.streamPeriod (s.lobby.state stream.session stream.viewer)
  else stream

/-- Does what is due now: clocks first, then streams. -/
def instant (s : Server τ) : Server τ :=
  let s := s.clocks.entries.foldl (fun s (id, clock) => s.advanceClock id clock) s
  { s with streams := s.streams.map (·.map s.present) }

/-- Lets milliseconds pass. -/
def sleep (s : Server τ) : Nat → Server τ
  | 0 => s.instant
  | ms + 1 => sleep { s.instant with now := s.now + 1 } ms

end Server

end Playfield
