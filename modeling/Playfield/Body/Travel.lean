import Playfield.Body.System

/-!
# Travel of bodies

`Physics.integrate` moves every active body for the length of a tick: gravity first, then along `x`,
then along `y`, then back into the bounds of the world.

Along an axis a body stops in front of the first blocking line of tiles, or where it meets a
stationary body that blocks it, whichever is closer. A body that is stopped loses its velocity along
the axis; one that is stopped on its way down stands on the ground.

`Physics.integrateOverflows` says when the program panics instead, since a cell is counted that is
no word.
-/

namespace Playfield

/-- Overlaps up to this depth are mere touching. -/
def overlapSlack {K : Type} [Scalar K] : K := 1e-9

namespace Body

variable {K : Type} [Scalar K]

/-- The leading face of a body on its way along an axis. -/
def lead (b : Body K) (axis : Axis) (delta : K) : K :=
  if 0.0 < delta then axis.of b.max else axis.of b.min

/-- Another body stands still and may stop this one along an axis. -/
def mayStop (b other : Body K) (axis : Axis) : Bool :=
  other.isSolid && other.isStationary && b.masksBlock other && !b.isAttachedTo other &&
    !decide (axis.other.of (b.overlap other) ≤ overlapSlack)

/-- The centre at which a body first meets the face of another one on its way. -/
def meeting? (b other : Body K) (axis : Axis) (delta : K) : Option K :=
  let lead := b.lead axis delta
  if 0.0 < delta then
    let face := axis.of other.min
    if lead - overlapSlack ≤ face ∧ face < lead + delta then some (face - axis.of b.half) else none
  else
    let face := axis.of other.max
    if face ≤ lead + overlapSlack ∧ lead + delta < face then some (face + axis.of b.half) else none

/-- The earlier of two stops on a way. -/
def earlier (delta : K) (best : Option K) (c : K) : K :=
  match best with
  | some b => if decide (0.0 < delta) == decide (b < c) then b else c
  | none => c

/-- The centre at which a body first meets one that stands still. -/
def stationaryStop? (b : Body K) (others : List (Body K)) (axis : Axis) (delta : K) : Option K :=
  if b.blockMask.isNone || !b.isSolid then none
  else
    (others.filter (b.mayStop · axis)).foldl (fun best other =>
      match b.meeting? other axis delta with
      | some c => some (earlier delta best c)
      | none => best) none

/-- Where a body ends on its way along an axis, and whether it was stopped. -/
def destination (b : Body K) (map : Option (TileMap K)) (others : List (Body K)) (axis : Axis)
    (delta : K) : K × Bool :=
  let half := axis.of b.half
  let byTile := map.bind fun m => m.sweep b.blockMask axis b.min b.max delta
  let (target, blocked) := match byTile with
    | some edge => (if 0.0 < delta then edge - half else edge + half, true)
    | none => (axis.of b.pos + delta, false)
  match b.stationaryStop? others axis delta with
  | some stop =>
    let closer := if 0.0 < delta then decide (stop < target) else decide (target < stop)
    if closer || !blocked then (stop, true) else (target, blocked)
  | none => (target, blocked)

/-- Moves a body along an axis. -/
def stepAxis (b : Body K) (map : Option (TileMap K)) (others : List (Body K)) (axis : Axis)
    (dt : K) : Body K :=
  let delta := axis.of b.vel * dt
  if delta == 0.0 then b
  else
    let (target, blocked) := b.destination map others axis delta
    let b := { b with pos := axis.set b.pos target }
    if blocked then
      { b with
        vel := axis.set b.vel 0.0
        onGround := b.onGround || (axis == .y && decide (0.0 < delta)) }
    else b

/-- The step of a body along an axis panics. -/
def stepOverflows (b : Body K) (map : Option (TileMap K)) (axis : Axis) (dt : K) : Bool :=
  let delta := axis.of b.vel * dt
  !(delta == 0.0) && map.any fun m => m.sweepOverflows b.blockMask axis b.min b.max delta

/-- Moves a body back between the bounds along an axis, if it fits. -/
def clampAxis (b : Body K) (bounds : Vec K) (axis : Axis) : Body K :=
  let lo := axis.of b.half
  let hi := axis.of bounds - axis.of b.half
  let p := axis.of b.pos
  let v := axis.of b.vel
  if hi < lo then b
  else if p < lo then
    { b with
      pos := axis.set b.pos lo
      vel := if v < 0.0 then axis.set b.vel 0.0 else b.vel }
  else if hi < p then
    { b with
      pos := axis.set b.pos hi
      vel := if 0.0 < v then axis.set b.vel 0.0 else b.vel
      onGround := b.onGround || axis == .y }
  else b

/-- Applies gravity to a dynamic body, which leaves the ground. -/
def fall (b : Body K) (gravity dt : K) (gravityOn : Bool) : Body K :=
  if b.flags.dynamic then
    { b with
      onGround := false
      vel := if gravityOn then { b.vel with y := b.vel.y + gravity * dt } else b.vel }
  else b

end Body

namespace Physics

variable {K : Type} [Scalar K]

/-- Moves one body among the others. -/
def travel (p : Physics K) (dt : K) (gravityOn : Bool) (others : List (Body K)) (b : Body K) :
    Body K :=
  if b.active && b.flags.enabled then
    let b := b.fall p.gravity dt gravityOn
    let b := b.stepAxis p.map others .x dt
    let b := b.stepAxis p.map others .y dt
    match p.bounds with
    | some bounds => (b.clampAxis bounds .x).clampAxis bounds .y
    | none => b
  else b

/-- Moves the remaining bodies one after the other, after those that are done. -/
def travelAll (p : Physics K) (dt : K) (gravityOn : Bool) (done : List (Body K)) :
    List (Body K) → List (Body K)
  | [] => done
  | b :: rest => travelAll p dt gravityOn (done ++ [p.travel dt gravityOn (done ++ rest) b]) rest

/-- Moves every body for the length of a tick. -/
def integrate (p : Physics K) (dt : K) (gravityOn : Bool) : Physics K :=
  { p with bodies := p.travelAll dt gravityOn [] p.bodies }

/-- The move of one body among the others panics. -/
def travelOverflows (p : Physics K) (dt : K) (gravityOn : Bool) (others : List (Body K))
    (b : Body K) : Bool :=
  let b := b.fall p.gravity dt gravityOn
  b.active && b.flags.enabled && (b.stepOverflows p.map .x dt ||
    (b.stepAxis p.map others .x dt).stepOverflows p.map .y dt)

/-- The move of one of the remaining bodies panics. -/
def travelAllOverflows (p : Physics K) (dt : K) (gravityOn : Bool) (done : List (Body K)) :
    List (Body K) → Bool
  | [] => false
  | b :: rest =>
    p.travelOverflows dt gravityOn (done ++ rest) b ||
      travelAllOverflows p dt gravityOn (done ++ [p.travel dt gravityOn (done ++ rest) b]) rest

/-- The move of every body for the length of a tick panics. -/
def integrateOverflows (p : Physics K) (dt : K) (gravityOn : Bool) : Bool :=
  p.travelAllOverflows dt gravityOn [] p.bodies

end Physics

end Playfield
