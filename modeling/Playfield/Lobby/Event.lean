import Playfield.Lobby.Room

/-!
# Events of a session

What the store keeps of a session: its creation, who joined, the starts and stops of its clock,
changes of its pace, and the ticks that were run.

* `SessionEvent.type` and `payload` are the form in which the store keeps an event.
* `SessionEvent.ofPass` is the event of a pass over the queues.
-/

namespace Playfield

/-- What happened to a session. -/
inductive SessionEvent (K : Type) where
  | created (seed : String) (mode : LoopMode) (roles : List String)
  | joined (role : String)
  | started
  | stopped
  | paced (pace : Pace K)
  /-- A pass: its tick numbers, the turn after it, the commands used and dropped, and the actors
  removed. -/
  | passed (ticks : List Nat) (turn : Nat) (consumed : List (Consumed K)) (discarded : Nat)
      (removed : List String)

namespace SessionEvent

variable {K : Type}

/-- The event of a pass that left the turn counter at `turn`. -/
def ofPass (r : PassReport K) (turn : Nat) : SessionEvent K :=
  passed (r.ticks.map (·.tick)) turn r.consumed r.discarded
    (r.ticks.flatMap fun t => t.removed.map (·.uid))

/-- The name of the kind of event. -/
def type : SessionEvent K → String
  | created .. => "created"
  | joined _ => "joined"
  | started => "started"
  | stopped => "stopped"
  | paced _ => "pace"
  | passed .. => "tick"

/-- The tick at which an event is filed. -/
def tick? : SessionEvent K → Option Nat
  | passed ticks .. => ticks.getLast?
  | _ => none

/-- What is said about a session where its seed is reserved. -/
def metadata (mode : LoopMode) (roles : List String) : Json K :=
  .obj [("loop_mode", .str mode.name), ("roles", .strings roles)]

/-- The particulars of an event. -/
def payload [Scalar K] : SessionEvent K → Json K
  | created seed mode roles => .obj [("seed", .str seed), ("metadata", metadata mode roles)]
  | joined role => .obj [("role", .str role)]
  | started | stopped => .obj []
  | paced pace => pace.toJson
  | passed ticks turn consumed discarded removed =>
    .obj [("ticks", .list .nat ticks), ("turn", .nat turn),
      ("consumed", .list Consumed.toJson consumed), ("discarded", .nat discarded),
      ("removed", .strings removed)]

end SessionEvent

end Playfield
