import Playfield.Body.System

/-!
# Animation

An actor shows a clip that follows from its motion. The `Animator` remembers for each active body
which clip it shows, for how long, and which way it faces.

* `Clip.ofMotion` chooses the clip, `Facing.turned` the side.
* `Animator.update` carries the states over from one tick to the next. A clip that goes on gets
  older, a new one starts at zero, and bodies that are gone or inactive are forgotten.
-/

namespace Playfield

/-- What an actor is seen doing. -/
inductive Clip where
  | idle | walk | jump | fall
  deriving DecidableEq, Repr, Inhabited

/-- The side an actor faces. -/
inductive Facing where
  | left | right
  deriving DecidableEq, Repr, Inhabited

/-- What is shown of an actor. -/
structure AnimationState (K : Type) where
  clip : Clip
  /-- The name of the clip for the type of the actor. -/
  name : String
  facing : Facing
  /-- The time since the clip started. -/
  time : K

/-- What is shown of every active actor. -/
structure Animator (K : Type) where
  states : Table String (AnimationState K) := ∅

variable {K : Type} [Scalar K]

namespace Clip

/-- The generic name of a clip. -/
def name : Clip → String
  | idle => "idle"
  | walk => "walk"
  | jump => "jump"
  | fall => "fall"

/-- The speed above which a body walks. -/
def walkThreshold : K := 1.0

/-- The vertical speed above which a body in the air jumps or falls. -/
def verticalSlack : K := 1e-6

/-- The clip for a velocity. -/
def ofMotion (vel : Vec K) (airborne : Bool) : Clip :=
  if airborne ∧ vel.y < -verticalSlack then jump
  else if airborne ∧ verticalSlack < vel.y then fall
  else if walkThreshold < Scalar.abs vel.x then walk
  else idle

/-- The name of a clip for a type of actors. -/
def nameFor (c : Clip) (s : Scene K) (type : String) : String :=
  ((s.template? type).bind (·.animations.get? c.name)).getD c.name

end Clip

namespace Facing

/-- The name of a side. -/
def name : Facing → String
  | left => "left"
  | right => "right"

/-- The side of a name. -/
def ofName? : String → Option Facing
  | "left" => some left
  | "right" => some right
  | _ => none

/-- The side after a horizontal velocity; it stays when there is none. -/
def turned (f : Facing) (vx : K) : Facing :=
  if 0.0 < vx then right else if vx < 0.0 then left else f

end Facing

omit [Scalar K] in
/-- The body has no ground under it. -/
def Body.isAirborne (b : Body K) : Bool := b.flags.dynamic && !b.onGround

namespace AnimationState

/-- What is shown of a body after another tick. -/
def next (s : Scene K) (dt : K) (b : Body K) (previous : Option (AnimationState K)) :
    AnimationState K :=
  let clip := Clip.ofMotion b.vel b.isAirborne
  { clip
    name := clip.nameFor s b.type
    facing := (previous.elim Facing.right (·.facing)).turned b.vel.x
    time := match previous with
      | some p => if p.clip = clip then p.time + dt else 0.0
      | none => 0.0 }

def toJson (a : AnimationState K) : Json K :=
  .obj [("clip", .str a.clip.name), ("name", .str a.name), ("facing", .str a.facing.name),
    ("time", .scalar a.time)]

end AnimationState

namespace Animator

omit [Scalar K] in
/-- What is shown of an actor. -/
def state? (a : Animator K) (uid : String) : Option (AnimationState K) := a.states.get? uid

/-- Carries states over for bodies in order. Each previous state is carried over once. -/
def carry (s : Scene K) (dt : K) (previous next : Table String (AnimationState K)) :
    List (Body K) → Table String (AnimationState K)
  | [] => next
  | b :: rest =>
    carry s dt (previous.erase b.uid)
      (next.insert b.uid (.next s dt b (previous.get? b.uid))) rest

/-- The states after another tick. -/
def update (a : Animator K) (s : Scene K) (bodies : List (Body K)) (dt : K) : Animator K :=
  ⟨carry s dt a.states ∅ (bodies.filter (·.active))⟩

/-- All states by uid. -/
def toJson (a : Animator K) : Json K := .table AnimationState.toJson a.states

end Animator

end Playfield
