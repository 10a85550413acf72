import Playfield.Roster
import Playfield.World.Basic

/-!
# Motion along attachments

An attached actor moves with its parent. `World.propagate` adds to every actor what its ancestors
have moved since the start of the tick: a child inherits its parent's own movement and what the
parent itself inherited. Actors on a chain of parents that loops stay where they are. Who is
attached to whom and has moved how far is told by the live actors; who is carried is looked up in
the index.
-/

namespace Playfield

/-- A position and a velocity, or a change of both. -/
structure Motion (K : Type) where
  x : K
  y : K
  vx : K
  vy : K

variable {K : Type} [Scalar K]

namespace Motion

/-- No motion. -/
def zero : Motion K := ⟨0.0, 0.0, 0.0, 0.0⟩

/-- The sum. -/
def add (a b : Motion K) : Motion K := ⟨a.x + b.x, a.y + b.y, a.vx + b.vx, a.vy + b.vy⟩

/-- The difference. -/
def sub (a b : Motion K) : Motion K := ⟨a.x - b.x, a.y - b.y, a.vx - b.vx, a.vy - b.vy⟩

/-- Nothing moves. -/
def isZero (m : Motion K) : Bool := m.x == 0.0 && m.y == 0.0 && m.vx == 0.0 && m.vy == 0.0

end Motion

namespace Actor

omit [Scalar K] in
/-- Position and velocity. -/
def motion (a : Actor K) : Motion K := ⟨a.x, a.y, a.vx, a.vy⟩

/-- Shifts position and velocity. -/
def shift (a : Actor K) (m : Motion K) : Actor K :=
  { a with x := a.x + m.x, y := a.y + m.y, vx := a.vx + m.vx, vy := a.vy + m.vy }

end Actor

namespace World

/-- How far the live actor of a uid has moved from a recorded motion; not at all if none is
recorded. -/
def ownMotion (w : World K) (before : Table String (Motion K)) (uid : String) : Motion K :=
  match Roster.find? Actor.uid uid w.actors, before.get? uid with
  | some a, some m => a.motion.sub m
  | _, _ => .zero

/-- What each actor inherits, in the order of the walk from the roots. -/
def inherited (w : World K) (before : Table String (Motion K)) : List (String × Motion K) :=
  let g := w.attachments
  g.walk (fun uid m => (w.ownMotion before uid).add m) g.uids (g.roots.map (·, .zero))

/-- Moves one actor by what it inherits. -/
def inherit (w : World K) (uid : String) (m : Motion K) : World K :=
  if m.isZero then w else w.modifyActor uid (·.shift m)

/-- Moves every attached actor with its ancestors. -/
def propagate (w : World K) (before : Table String (Motion K)) : World K :=
  (w.inherited before).foldl (fun w' (uid, m) => w'.inherit uid m) w

end World

end Playfield
