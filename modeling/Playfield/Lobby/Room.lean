import Playfield.Picture
import Playfield.Session.Pass

/-!
# Rooms

A `Room` is a session with what surrounds it: its seed, the tokens that open it, who has joined and
whether its clock runs.

* `Room.view` is the state as a viewer sees it. An administrator sees the whole; a role sees its own
  record and server fields, its camera and its part of the interface, and of the other roles
  nothing.
* `Room.picture` is the world in text as a viewer sees it.
-/

namespace Playfield

/-- Whether the clock of a session runs. -/
inductive Status where
  | created | running | stopped
  deriving DecidableEq, Repr, Inhabited

/-- The name of a status. -/
def Status.name : Status → String
  | created => "created"
  | running => "running"
  | stopped => "stopped"

/-- Who looks at a session. -/
inductive Viewer where
  | admin
  | role (id : String)
  deriving DecidableEq, Repr, Inhabited

/-- The role of a viewer. -/
def Viewer.role? : Viewer → Option String
  | admin => none
  | role id => some id

/-- The viewer sees the record of a role. -/
def Viewer.sees (v : Viewer) (role : String) : Bool := v.role?.all (· == role)

/-- A session with what surrounds it. -/
structure Room (K τ : Type) where
  seed : String
  adminToken : String
  /-- From roles to the tokens that grant their access. -/
  roleTokens : Table String String
  /-- From roles to the invites that lead to them. -/
  invites : Table String String
  status : Status := .created
  joined : NameSet := ∅
  session : Session K τ

/-- The record of a role as it is shown. -/
structure RoleView (K : Type) where
  id : String
  kind : RoleKind
  required : Bool
  joined : Bool
  /-- The number of commands that wait. -/
  queued : Nat
  serverFields : Fields K

/-- A session as a viewer sees it. -/
structure StateView (K : Type) where
  session : String
  seed : String
  status : Status
  mode : LoopMode
  tickRate : Nat
  tick : Nat
  turn : Nat
  currentRole : Option String
  pace : Pace K
  turnTimeoutMs : Option Nat
  hybridWindowMs : Option Nat
  roles : List (RoleView K)
  self : Option String
  camera : Option (Camera K)
  ui : Option (Json K)
  snapshot : SimulationSnapshot K

/-- What a viewer sees of a snapshot. -/
def SimulationSnapshot.seenBy {K : Type} (s : SimulationSnapshot K) (v : Viewer) :
    SimulationSnapshot K :=
  { s with world := { s.world with roles := s.world.roles.filter fun role _ => v.sees role } }

namespace Room

variable {K τ : Type}

/-- The record of a role. -/
def roleView (r : Room K τ) (role : Role K) : RoleView K :=
  { id := role.id
    kind := role.kind
    required := role.required
    joined := r.joined.contains role.id
    queued := r.session.queued role.id
    serverFields := (r.session.world.roles.get? role.id).getD ∅ }

/-- The records of roles that a viewer sees. -/
def roleViews (r : Room K τ) (v : Viewer) : List (RoleView K) :=
  ((r.session.seats.map (·.role)).filter fun role => v.sees role.id).map r.roleView

/-- The state as a viewer sees it. -/
def view (r : Room K τ) (id : String) (v : Viewer) : StateView K :=
  let world := r.session.world
  let scene := world.scene
  let role := v.role?.bind scene.role?
  { session := id
    seed := r.seed
    status := r.status
    mode := r.session.mode
    tickRate := scene.multiplayer.tickRate
    tick := world.tick
    turn := world.turn
    currentRole := r.session.currentRole?
    pace := r.session.simulation.pace
    turnTimeoutMs := scene.multiplayer.turnTimeoutMs
    hybridWindowMs := scene.multiplayer.hybridWindowMs
    roles := r.roleViews v
    self := v.role?
    camera := (role.bind (·.camera)).bind scene.camera?
    ui := role.bind (·.ui)
    snapshot := r.session.simulation.snapshot.seenBy v }

/-- The world in text as a viewer sees it. -/
def picture [Scalar K] (r : Room K τ) (v : Viewer) : Picture K :=
  let world := r.session.world
  match v.role?.bind world.scene.role? with
  | some role => .forRole world role
  | none => .ofWorld world none

end Room

/-! ### JSON forms -/

variable {K : Type} [Scalar K]

namespace RoleView

def toJson (r : RoleView K) : Json K :=
  .obj [("id", .str r.id), ("kind", .str r.kind.name), ("required", .bool r.required),
    ("joined", .bool r.joined), ("queued", .nat r.queued),
    ("server_fields", r.serverFields.toJson)]

end RoleView

namespace StateView

def toJson (s : StateView K) : Json K :=
  .obj ([("session_id", .str s.session), ("seed", .str s.seed), ("status", .str s.status.name),
    ("loop_mode", .str s.mode.name), ("tick_rate", .nat s.tickRate), ("tick", .nat s.tick),
    ("turn", .nat s.turn), ("current_role", .option .str s.currentRole),
    ("pace", s.pace.toJson), ("turn_timeout_ms", .option .nat s.turnTimeoutMs),
    ("hybrid_window_ms", .option .nat s.hybridWindowMs),
    ("roles", .list RoleView.toJson s.roles)] ++
    Json.optionalMember "self" .str s.self ++
    Json.optionalMember "camera" Camera.toJson s.camera ++
    Json.optionalMember "ui" (fun j => j) s.ui ++
    [("world", s.snapshot.toJson)])

end StateView

end Playfield
