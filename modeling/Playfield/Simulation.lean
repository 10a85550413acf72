import Playfield.Animation
import Playfield.Body.Contacts
import Playfield.Body.Separation
import Playfield.Rule.Engine

/-!
# Simulation

A `Simulation` joins the rules, the bodies and the animation of one scene. One tick

* moves the bodies,
* observes which of them collide and compares with the tick before,
* runs the rules on the input and the collisions,
* undoes what the rules did against tiles and other bodies, and updates the animation.

`Simulation.step` gives the simulation that is left even if a rule fails; then the second half of
the tick has not happened. `dueSteps` says how many ticks the passing of time asks for.
-/

namespace Playfield

/-- How game time follows the time that passes. -/
structure Pace (K : Type) where
  /-- Game seconds in a second. -/
  timeScale : K
  /-- The greatest number of ticks that are made up for at once. -/
  maxCatchupSteps : Nat

/-- What happened in a tick. -/
structure TickReport (K : Type) where
  tick : Nat
  turn : Nat
  removed : List (Actor K)
  collisions : List CollisionEvent
  rolledBack : List String
  fired : List Fired

/-- The state that is shown. -/
structure SimulationSnapshot (K : Type) where
  world : WorldSnapshot K
  animator : Animator K

/-- A running scene. -/
structure Simulation (K τ : Type) where
  rules : RuleEngine K τ
  physics : Physics K
  animator : Animator K := {}
  /-- The collisions of the last tick, by their keys. -/
  previous : Table (List String) CollisionEvent := ∅
  pace : Pace K
  /-- Game time that no tick has used yet. -/
  accumulator : K
  /-- A tick has counted a cell that is no word. The program has panicked, and the rest of the
  simulation counts for nothing. -/
  overflowed : Bool := false

/-- The place of a kind in the order of kinds. -/
def CollisionKind.rank : CollisionKind → String
  | overlap => "0"
  | contact => "1"
  | tile => "2"

/-- What makes a collision the same from tick to tick: kind and parties. -/
def CollisionEvent.key (e : CollisionEvent) : List String := [e.kind.rank, e.a.uid, e.b.uid]

/-- The party that stands for a tile. -/
def TileHit.party (t : TileHit) : Party := ⟨s!"tile_{t.col}_{t.row}", tileType⟩

variable {K τ : Type}

/-- The pace that a scene asks for. -/
def Pace.ofScene (s : Scene K) : Pace K := ⟨s.multiplayer.timeScale, s.multiplayer.maxCatchupSteps⟩

namespace Simulation

/-- The world. -/
def world (s : Simulation K τ) : World K := s.rules.world

/-- Edits the world. -/
def modifyWorld (s : Simulation K τ) (f : World K → World K) : Simulation K τ :=
  { s with rules := s.rules.modifyWorld f }

/-- The length of a tick in game time. -/
def dt (s : Simulation K τ) : K := s.rules.dt

/-- The state that is shown. -/
def snapshot (s : Simulation K τ) : SimulationSnapshot K := ⟨s.world.snapshot, s.animator⟩

/-- Collisions by their keys. -/
def byKey (observed : List CollisionEvent) : Table (List String) CollisionEvent :=
  letI : LE (List String) := List.instLE
  Table.ofList (observed.map fun e => (e.key, e))

/-- The phase of an observed collision. -/
def phased (previous : Table (List String) CollisionEvent) (e : CollisionEvent) : CollisionEvent :=
  { e with phase := if previous.contains e.key then .on else .begin }

/-- The collisions of the last tick that are over, in the order of their keys. -/
def ended (previous : Table (List String) CollisionEvent) (observed : List CollisionEvent) :
    List CollisionEvent :=
  (previous.entries.filter fun e => !observed.any (·.key == e.1)).map fun e =>
    { e.2 with phase := .finish }

/-- The events of a tick: what is observed, and what has ended. -/
def events (previous : Table (List String) CollisionEvent) (observed : List CollisionEvent) :
    List CollisionEvent :=
  observed.map (phased previous) ++ ended previous observed

variable [Scalar K]

/-- The simulation at the start of a scene. -/
def new (scene : Scene K) (roles : List (Role K)) (registry : Registry K τ) (seed : UInt64) :
    Except SceneError (Simulation K τ) :=
  (RuleEngine.new scene roles registry seed).map fun rules =>
    { rules
      physics := (Physics.ofScene scene).sync rules.world
      pace := .ofScene scene
      accumulator := 0.0 }

/-- The collisions between bodies as they are: overlaps, contacts and tiles. -/
def observe (p : Physics K) : List CollisionEvent :=
  (p.overlaps.map fun (a, b) => ⟨.overlap, .on, a, b, none⟩) ++
    (p.contacts.map fun (a, b) => ⟨.contact, .on, a, b, none⟩) ++
    (p.tileContacts.map fun (a, hit) => ⟨.tile, .on, a, hit.party, some hit⟩)

/-- Moves the bodies and observes collisions. -/
def move (s : Simulation K τ) : List CollisionEvent × Simulation K τ :=
  let physics := ((s.physics.configure s.world.scene).sync s.world).beginTick
  let s := s.modifyWorld World.beginTick
  let travels := physics.integrateOverflows s.dt s.world.gravityEnabled
  let physics := physics.integrate s.dt s.world.gravityEnabled
  let overflowed := s.overflowed || travels || physics.tileContactsOverflow
  let s := { s.modifyWorld physics.writeBack with physics, overflowed }
  let observed := observe physics
  (events s.previous observed,
    { s with previous := byKey observed })

/-- Resolves what the rules did and updates the animation. -/
def finish (s : Simulation K τ) : Resolution × Simulation K τ :=
  let physics := s.physics.sync s.world
  let overflowed := s.overflowed || physics.resolveOverflows
  let (resolution, physics) := physics.resolve
  let s := { s.modifyWorld physics.writeBack with physics, overflowed }
  (resolution, { s with animator := s.animator.update s.world.scene physics.bodies s.dt })

/-- Runs one tick on an input. -/
def step (s : Simulation K τ) (input : InputFrame K) :
    Except RuleError (TickReport K) × Simulation K τ :=
  let (collisions, s) := s.move
  let frame := { input with collisions := input.collisions ++ collisions }
  match s.rules.step frame s.physics.motion with
  | (.error e, rules) => (.error e, { s with rules })
  | (.ok report, rules) =>
    let (resolution, s) := finish { s with rules }
    let (removed, world) := s.world.takeRemoved
    (.ok {
      tick := world.tick
      turn := world.turn
      removed
      collisions
      rolledBack := resolution.rolledBack
      fired := report.fired }, s.modifyWorld fun _ => world)

/-- Lets time pass. Gives the number of ticks that are due; time beyond the greatest number of
ticks to make up for is lost. -/
def dueSteps (s : Simulation K τ) (elapsed : K) : Nat × Simulation K τ :=
  let total := s.accumulator + (if 0.0 < elapsed then elapsed else 0.0) * s.pace.timeScale
  let due := Scalar.floor (total / s.dt)
  let steps := (Scalar.trunc 0 Word.greatestHalf due).toNat
  (min steps s.pace.maxCatchupSteps, { s with accumulator := total - due * s.dt })

end Simulation

/-! ### JSON forms -/

variable [Scalar K]

namespace Pace

def decode : Decoder K (Pace K) := fun d => do
  let ms ← Decoder.record ["time_scale", "max_catchup_steps"] d
  return ⟨← ms.required "time_scale" Decoder.scalar, ← ms.required "max_catchup_steps" Decoder.half⟩

def toJson (p : Pace K) : Json K :=
  .obj [("time_scale", .scalar p.timeScale), ("max_catchup_steps", .nat p.maxCatchupSteps)]

end Pace

namespace TickReport

def toJson (r : TickReport K) : Json K :=
  .obj [("tick", .nat r.tick), ("turn", .nat r.turn), ("removed", .list Actor.toJson r.removed),
    ("collisions", .list CollisionEvent.toJson r.collisions),
    ("rolled_back", .strings r.rolledBack), ("fired", .list Fired.toJson r.fired)]

end TickReport

namespace SimulationSnapshot

def toJson (s : SimulationSnapshot K) : Json K :=
  .obj (s.world.members ++ [("animations", s.animator.toJson)])

end SimulationSnapshot

end Playfield
