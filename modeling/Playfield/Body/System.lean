import Playfield.Body.Tiles

/-!
# The bodies of a world

`Physics` holds one body for each live actor, in the same order, with the map, the bounds and the
gravity of the scene.

* `sync` follows the world: bodies keep their history, new actors get new bodies.
* `beginTick` remembers where everything is; `writeBack` copies positions and velocities to the
  actors.
-/

namespace Playfield

/-- The bodies of a world and what surrounds them. -/
structure Physics (K : Type) where
  bodies : List (Body K) := []
  map : Option (TileMap K)
  bounds : Option (Vec K)
  gravity : K

namespace Physics

variable {K : Type}

/-- The body of a uid. -/
def body? (p : Physics K) (uid : String) : Option (Body K) := Roster.find? Body.uid uid p.bodies

/-- The attachments of the bodies. -/
def attachments (p : Physics K) : Attachments := ⟨p.bodies.map fun b => (b.uid, b.parent)⟩

/-- Remembers the start of a tick. -/
def beginTick (p : Physics K) : Physics K := { p with bodies := p.bodies.map Body.beginTick }

/-- Position and velocity of every body at the start of the tick. -/
def motion (p : Physics K) : Table String (Motion K) :=
  Table.ofList (p.bodies.map fun b =>
    (b.uid, ⟨b.prevPos.x, b.prevPos.y, b.prevVel.x, b.prevVel.y⟩))

variable [Scalar K]

/-- Takes over map, bounds and gravity of a scene. -/
def configure (p : Physics K) (s : Scene K) : Physics K :=
  { p with
    map := s.map
    bounds := s.worldSize.map fun (w, h) => ⟨w, h⟩
    gravity := s.world.gravity }

/-- The surroundings of a scene, still without bodies. -/
def ofScene (s : Scene K) : Physics K :=
  configure { map := none, bounds := none, gravity := 0.0 } s

/-- The bodies of actors. Each actor continues the body that had its uid; a body is continued
once. -/
def follow (previous : List (Body K)) : List (Actor K) → List (Body K)
  | [] => []
  | a :: rest =>
    match Roster.find? Body.uid a.uid previous with
    | some b => b.refresh a :: follow (previous.filter (·.uid != a.uid)) rest
    | none => .ofActor a :: follow previous rest

/-- Follows the live actors of a world. -/
def sync (p : Physics K) (w : World K) : Physics K := { p with bodies := follow p.bodies w.actors }

omit [Scalar K] in
/-- Puts an actor where its body is. -/
def place (b : Body K) (a : Actor K) : Actor K :=
  { a with x := b.pos.x, y := b.pos.y, vx := b.vel.x, vy := b.vel.y }

omit [Scalar K] in
/-- Puts every actor where its body is. -/
def writeBack (p : Physics K) (w : World K) : World K :=
  p.bodies.foldl (fun w b => w.modifyActor b.uid (place b)) w

end Physics

end Playfield
