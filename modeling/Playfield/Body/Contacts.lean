import Playfield.Body.Travel

/-!
# Collisions between bodies

The pairs of bodies that overlap or touch, and the tiles under bodies, each in the order of the body
list.
-/

namespace Playfield

/-- Boxes at most this far apart touch. -/
def contactSlack {K : Type} [Scalar K] : K := 0.01

namespace Physics

variable {K : Type}

/-- The pairs of solid bodies that pass a test. -/
def pairs (test : Body K → Body K → Bool) : List (Body K) → List (Party × Party)
  | [] => []
  | a :: rest =>
    (if a.isSolid then (rest.filter fun b => b.isSolid && test a b).map fun b => (a.party, b.party)
      else []) ++ pairs test rest

variable [Scalar K]

/-- Two boxes overlap along both axes. -/
def overlapping (a b : Body K) : Bool :=
  let o := a.overlap b
  decide (overlapSlack < o.x) && decide (overlapSlack < o.y)

/-- Two boxes that block each other touch along an edge, and not only at a corner. -/
def touching (a b : Body K) : Bool :=
  let o := a.overlap b
  a.masksBlock b && !a.isAttachedTo b &&
    decide (-contactSlack ≤ o.x) && decide (-contactSlack ≤ o.y) &&
    (decide (contactSlack < o.x) || decide (contactSlack < o.y))

/-- The pairs of boxes that overlap, whatever their masks. -/
def overlaps (p : Physics K) : List (Party × Party) := pairs overlapping p.bodies

/-- The pairs of boxes that block each other and touch. -/
def contacts (p : Physics K) : List (Party × Party) := pairs touching p.bodies

/-- The masked tiles under each solid body or within touch of it. -/
def tileContacts (p : Physics K) : List (Party × TileHit) :=
  match p.map with
  | none => []
  | some m =>
    let pad : Vec K := ⟨contactSlack, contactSlack⟩
    (p.bodies.filter (·.isSolid)).flatMap fun b =>
      (m.maskedTiles (b.min.sub pad) (b.max.add pad)).map fun hit => (b.party, hit)

/-- The search for the tiles under bodies panics. -/
def tileContactsOverflow (p : Physics K) : Bool :=
  let pad : Vec K := ⟨contactSlack, contactSlack⟩
  p.map.any fun m =>
    (p.bodies.filter (·.isSolid)).any fun b => m.boxOverflows (b.min.sub pad) (b.max.add pad)

end Physics

end Playfield
