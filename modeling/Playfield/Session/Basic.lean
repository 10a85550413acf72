import Playfield.Session.Command
import Playfield.Simulation
import Playfield.Store

/-!
# Sessions

A `Session` is a simulation with the roles that take part. Each role has a seat with a queue of
commands; passes over the queues, which are in another module, turn commands into ticks.

* `Session.enqueue` takes a batch of commands as a whole or refuses it as a whole.
* `SessionError` lists why a request about a session fails.
-/

namespace Playfield

/-- The class of a failure. -/
inductive SessionError.Kind where
  | validation | unauthorized | notFound | conflict | internal
  deriving DecidableEq, Repr

/-- Why a request about a session fails. -/
inductive SessionError where
  | unknownRole (role : String)
  | missingRole (role : String)
  | unknownTool (tool : String)
  | toolNotOffered (tool role : String)
  | queueFull (role : String) (greatest : Nat)
  | tooManyCommands (greatest : Nat)
  | stopped (session : String)
  | blankSeed
  | badTimeScale
  | badCatchup
  | scene (error : SceneError)
  | unauthorized
  | notFound (session : String)
  | sessionLimit (greatest : Nat)
  | sessionExists (session : String)
  | seedTaken (seed : String)
  | noFreeSeed (attempts : Nat)
  | tickFailed (error : RuleError)
  | storeFailed (cause : String)
  deriving DecidableEq, Repr

namespace SessionError

/-- The class of a failure. -/
def kind : SessionError → Kind
  | unauthorized => .unauthorized
  | notFound _ => .notFound
  | sessionLimit _ | sessionExists _ | seedTaken _ | noFreeSeed _ => .conflict
  | tickFailed _ | storeFailed _ => .internal
  | _ => .validation

/-- The wording of a failure. -/
def message : SessionError → String
  | unknownRole role => s!"Unknown role '{role}'"
  | missingRole role => s!"Required role '{role}' is missing"
  | unknownTool tool => s!"Unknown tool '{tool}'"
  | toolNotOffered tool role => s!"Tool '{tool}' is not offered to role '{role}'"
  | queueFull role greatest => s!"Queue for role '{role}' is full ({greatest} commands max)"
  | tooManyCommands greatest => s!"Too many commands ({greatest} max per request)"
  | stopped session => s!"Session '{session}' is stopped"
  | blankSeed => "Seed must not be empty"
  | badTimeScale => "time_scale must be a positive number"
  | badCatchup => "max_catchup_steps must be positive"
  | scene error => error.message
  | unauthorized => "Invalid or missing token"
  | notFound session => s!"Session '{session}' not found"
  | sessionLimit greatest => s!"Session limit reached ({greatest} max)"
  | sessionExists session => s!"Session '{session}' already exists"
  | seedTaken seed => s!"Seed '{seed}' is already reserved"
  | noFreeSeed attempts => s!"Could not reserve a unique seed after {attempts} attempts"
  | tickFailed error => s!"Internal error: {error.message}"
  | storeFailed cause => s!"Internal error: {cause}"

/-- A refusal of the store, seen from a session. -/
def ofStore : StoreError → SessionError
  | .duplicateSeed seed => seedTaken seed
  | .unavailable cause => storeFailed cause

end SessionError

/-- The place of a role in a session. -/
structure Seat (K : Type) where
  role : Role K
  /-- Commands that wait, oldest first. -/
  queue : List (Command K) := []

/-- A simulation and the roles that take part. -/
structure Session (K τ : Type) where
  simulation : Simulation K τ
  mode : LoopMode
  seats : List (Seat K)

/-- A command that was taken off a queue and applied. -/
structure Consumed (K : Type) where
  role : String
  command : Command K

/-- What a pass over the queues did. -/
structure PassReport (K : Type) where
  ticks : List (TickReport K) := []
  consumed : List (Consumed K) := []
  /-- The number of commands dropped because the same role sent a newer one. -/
  discarded : Nat := 0

/-- One pass after the other. -/
def PassReport.append {K : Type} (a b : PassReport K) : PassReport K :=
  ⟨a.ticks ++ b.ticks, a.consumed ++ b.consumed, a.discarded + b.discarded⟩

namespace Session

variable {K τ : Type}

/-- A session at its start. -/
def new (simulation : Simulation K τ) (mode : LoopMode) (roles : List (Role K)) : Session K τ :=
  { simulation, mode, seats := roles.map fun role => { role } }

/-- The world. -/
def world (s : Session K τ) : World K := s.simulation.world

/-- Edits the world. -/
def modifyWorld (s : Session K τ) (f : World K → World K) : Session K τ :=
  { s with simulation := s.simulation.modifyWorld f }

/-- The seat of a role. -/
def seat? (s : Session K τ) (role : String) : Option (Seat K) :=
  s.seats.find? (·.role.id == role)

/-- The number of commands that wait for a role. -/
def queued (s : Session K τ) (role : String) : Nat := (s.seat? role).elim 0 (·.queue.length)

/-- The position of the seat whose turn it is. -/
def currentIndex (s : Session K τ) : Nat := s.world.turn % s.seats.length

/-- The role whose turn it is. Continuous sessions have no turns. -/
def currentRole? (s : Session K τ) : Option String :=
  match s.mode with
  | .continuous => none
  | _ => (s.seats[s.currentIndex]?).map (·.role.id)

/-- A role may send a command: a tool must exist and be offered to it. -/
def admits (s : Scene K) (role : String) (c : Command K) : Except SessionError Unit :=
  match c.tool? with
  | none => .ok ()
  | some name =>
    match s.tool? name with
    | none => .error (.unknownTool name)
    | some tool => if tool.offeredTo role then .ok () else .error (.toolNotOffered name role)

/-- Appends commands to the queue of the first seat of a role. -/
def push (role : String) (commands : List (Command K)) : List (Seat K) → List (Seat K)
  | [] => []
  | seat :: rest =>
    if seat.role.id = role then { seat with queue := seat.queue ++ commands } :: rest
    else seat :: push role commands rest

/-- Takes a batch of commands of a role, or refuses it. -/
def enqueue (s : Session K τ) (role : String) (commands : List (Command K)) (maxQueue : Nat) :
    Except SessionError (Session K τ) :=
  match s.seat? role with
  | none => .error (.unknownRole role)
  | some seat => do
    commands.forM (admits s.world.scene role)
    if seat.queue.length + commands.length > maxQueue then .error (.queueFull role maxQueue)
    else .ok { s with seats := push role commands s.seats }

end Session

/-! ### JSON forms -/

variable {K : Type}

namespace Consumed

def toJson (c : Consumed K) : Json K :=
  .obj [("role", .str c.role), ("command", c.command.toJson)]

end Consumed

namespace PassReport

def toJson [Scalar K] (r : PassReport K) : Json K :=
  .obj [("ticks", .list TickReport.toJson r.ticks), ("consumed", .list Consumed.toJson r.consumed),
    ("discarded", .nat r.discarded)]

end PassReport

end Playfield
