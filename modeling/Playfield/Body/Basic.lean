import Playfield.Input
import Playfield.World.Motion

/-!
# Bodies

A body is what the physics knows of an actor: an axis-aligned box with its centre, velocity and half
size, and the centre and velocity it had at the start of the tick.
-/

namespace Playfield

/-- A point or a displacement of the plane; `y` grows downward. -/
structure Vec (K : Type) where
  x : K
  y : K

/-- One of the two axes. -/
inductive Axis where
  | x | y
  deriving DecidableEq, Repr

namespace Axis

/-- The other axis. -/
def other : Axis → Axis
  | x => y
  | y => x

/-- The component of a vector. -/
def of {K : Type} : Axis → Vec K → K
  | x, v => v.x
  | y, v => v.y

/-- Replaces the component of a vector. -/
def set {K : Type} : Axis → Vec K → K → Vec K
  | x, v, c => { v with x := c }
  | y, v, c => { v with y := c }

theorem of_set {K : Type} (a : Axis) (v : Vec K) (c : K) : a.of (a.set v c) = c := by
  cases a <;> rfl

theorem of_other_set {K : Type} (a : Axis) (v : Vec K) (c : K) :
    a.other.of (a.set v c) = a.other.of v := by
  cases a <;> rfl

end Axis

namespace Vec

variable {K : Type} [Scalar K]

/-- No displacement. -/
def zero : Vec K := ⟨0.0, 0.0⟩

/-- The sum. -/
def add (a b : Vec K) : Vec K := ⟨a.x + b.x, a.y + b.y⟩

/-- The difference. -/
def sub (a b : Vec K) : Vec K := ⟨a.x - b.x, a.y - b.y⟩

/-- The magnitudes of the components. -/
def abs (a : Vec K) : Vec K := ⟨Scalar.abs a.x, Scalar.abs a.y⟩

/-- Both components are zero. -/
def isZero (a : Vec K) : Bool := a.x == 0.0 && a.y == 0.0

def toJson (a : Vec K) : Json K := .arr [.scalar a.x, .scalar a.y]

end Vec

/-- What the physics knows of an actor. -/
structure Body (K : Type) where
  uid : String
  type : String
  pos : Vec K
  vel : Vec K
  /-- The centre at the start of the tick. -/
  prevPos : Vec K
  /-- The velocity at the start of the tick. -/
  prevVel : Vec K
  half : Vec K
  flags : PhysicsFlags
  active : Bool
  blockMask : Option Int
  parent : Option String
  onGround : Bool

/-- A tile stops an actor only if both have masks and that of the tile is the greater. -/
def tileBlocks (actor tile : Option Int) : Bool :=
  match actor, tile with
  | some a, some t => decide (a < t)
  | _, _ => false

namespace Body

variable {K : Type} [Scalar K]

/-- A body at rest where an actor is. -/
def ofActor (a : Actor K) : Body K :=
  let pos := ⟨a.x, a.y⟩
  let vel := ⟨a.vx, a.vy⟩
  { uid := a.uid, type := a.type, pos, vel, prevPos := pos, prevVel := vel
    half := ⟨Scalar.half a.width, Scalar.half a.height⟩
    flags := a.physics, active := a.active, blockMask := a.blockMask, parent := a.parent
    onGround := false }

/-- Takes over the state of the actor; the start of the tick and the ground stay. -/
def refresh (b : Body K) (a : Actor K) : Body K :=
  { ofActor a with
    uid := b.uid, prevPos := b.prevPos, prevVel := b.prevVel, onGround := b.onGround }

/-- The upper left corner. -/
def min (b : Body K) : Vec K := b.pos.sub b.half

/-- The lower right corner. -/
def max (b : Body K) : Vec K := b.pos.add b.half

omit [Scalar K] in
/-- The body takes part in collisions. -/
def isSolid (b : Body K) : Bool := b.active && b.flags.enabled && b.flags.collidable

/-- The body stands still and is not moved by forces. -/
def isStationary (b : Body K) : Bool := !b.flags.dynamic && b.vel.isZero

omit [Scalar K] in
/-- Two bodies block each other if they have the same mask. -/
def masksBlock (a b : Body K) : Bool := a.blockMask.isSome && a.blockMask == b.blockMask

omit [Scalar K] in
/-- One of the two names the other as its parent. -/
def isAttachedTo (a b : Body K) : Bool := a.parent == some b.uid || b.parent == some a.uid

/-- How far two boxes overlap along each axis; a gap is negative. -/
def overlap (a b : Body K) : Vec K := (a.half.add b.half).sub (a.pos.sub b.pos).abs

/-- The displacement since the start of the tick. -/
def moved (b : Body K) : Vec K := b.pos.sub b.prevPos

omit [Scalar K] in
/-- Remembers the start of a tick. -/
def beginTick (b : Body K) : Body K := { b with prevPos := b.pos, prevVel := b.vel }

/-- Goes back to the start of the tick and rests. -/
def rollBack (b : Body K) : Body K := { b with pos := b.prevPos, vel := .zero }

omit [Scalar K] in
/-- The body as a side of a collision. -/
def party (b : Body K) : Party := ⟨b.uid, b.type⟩

def toJson (b : Body K) : Json K :=
  .obj [("uid", .str b.uid), ("type", .str b.type), ("pos", b.pos.toJson), ("vel", b.vel.toJson),
    ("prev_pos", b.prevPos.toJson), ("prev_vel", b.prevVel.toJson), ("half", b.half.toJson),
    ("config", b.flags.toJson), ("active", .bool b.active),
    ("block_mask", .option .int b.blockMask), ("parent", .option .str b.parent),
    ("on_ground", .bool b.onGround)]

end Body

end Playfield
