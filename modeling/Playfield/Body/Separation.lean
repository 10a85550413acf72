import Playfield.Body.Travel

/-!
# Resolution after the rules

Rules may put bodies into tiles or into each other. `Physics.resolve` undoes that.

* A body in a blocking tile goes back, with all that is attached to it, to where it was at the start
  of the tick.
* Bodies that block each other are pushed apart along the axis of least overlap, each with the whole
  tree it is attached to. Trees that were rolled back stay in place, and a tree pushed off one is
  held there too.
* Both are repeated until nothing is pushed into a tile, at most `maxPasses` times.
-/

namespace Playfield

/-- The greatest number of passes of either loop. -/
def maxPasses : Nat := 4

/-- What a resolution changed. -/
structure Resolution where
  /-- The bodies that went back, in the order in which they first did. -/
  rolledBack : List String := []
  /-- The number of pushes. -/
  pushes : Nat := 0
  deriving DecidableEq, Repr

/-- The bodies while they are pushed apart. -/
structure Pushing (K : Type) where
  bodies : List (Body K)
  /-- The bodies that went back. -/
  rolledBack : List String
  /-- The bodies that stay in place. -/
  held : List String

/-- Adds the names that are not yet there. -/
def addNames (names more : List String) : List String :=
  more.foldl (fun l u => if u ∈ l then l else l ++ [u]) names

namespace Pushing

variable {K : Type} [Scalar K]

/-- Sends a body back to the start of the tick. -/
def rollBack (s : Pushing K) (uid : String) : Pushing K :=
  match Roster.modify? Body.uid uid Body.rollBack s.bodies with
  | some bodies => { s with bodies, rolledBack := addNames s.rolledBack [uid] }
  | none => s

/-- Sends bodies back to the start of the tick. -/
def rollBackAll (s : Pushing K) (uids : List String) : Pushing K := uids.foldl rollBack s

/-- Shifts a body along an axis. -/
def shift (axis : Axis) (amount : K) (b : Body K) : Body K :=
  { b with pos := axis.set b.pos (axis.of b.pos + amount) }

/-- Shifts the tree of a body along an axis. A tree of several bodies whose root moves against the
push goes back instead. -/
def shiftTree (g : Attachments) (s : Pushing K) (uid : String) (axis : Axis) (amount : K) :
    Pushing K :=
  let root := (g.rootOf? uid).getD uid
  let tree := g.subtree root
  let rootMotion := ((Roster.find? Body.uid root s.bodies).map fun b => axis.of b.moved).getD 0.0
  if tree.length > 1 && decide (rootMotion * amount < 0.0) then s.rollBackAll tree
  else { s with
    bodies := tree.foldl (fun bs u => Roster.modify Body.uid u (shift axis amount) bs) s.bodies }

/-- Which way to push: the second of two bodies goes up the axis or down, as it lies from the first
one now, else at the start of the tick, else by the order of their uids. -/
def direction (a b : Body K) (axis : Axis) : K :=
  let now := axis.of (b.pos.sub a.pos)
  let before := axis.of (b.prevPos.sub a.prevPos)
  if overlapSlack < Scalar.abs now then Scalar.sign now
  else if overlapSlack < Scalar.abs before then Scalar.sign before
  else if a.uid ≤ b.uid then 1.0 else -1.0

/-- The parts of a push that two bodies take: the one that is not pinned takes all; else both as
they moved in this tick; if neither did, a dynamic one takes all. -/
def shares (a b : Body K) (axis : Axis) (pinnedA pinnedB : Bool) : K × K :=
  let movedA := Scalar.abs (axis.of a.moved)
  let movedB := Scalar.abs (axis.of b.moved)
  if pinnedA then (0.0, 1.0)
  else if pinnedB then (1.0, 0.0)
  else if overlapSlack < movedA + movedB then
    (movedA / (movedA + movedB), movedB / (movedA + movedB))
  else
    match a.flags.dynamic, b.flags.dynamic with
    | true, false => (1.0, 0.0)
    | false, true => (0.0, 1.0)
    | _, _ => (0.5, 0.5)

/-- Takes away the velocity along an axis if it points along a direction. -/
def halt (axis : Axis) (dir : K) (b : Body K) : Body K :=
  if 0.0 < axis.of b.vel * dir then { b with vel := axis.set b.vel 0.0 } else b

/-- Pushes two overlapping bodies apart; none if both are pinned. -/
def pushApart? (g : Attachments) (s : Pushing K) (i j : Nat) (a b : Body K) : Option (Pushing K) :=
  let overlap := a.overlap b
  let axis := if overlap.x ≤ overlap.y then Axis.x else Axis.y
  let depth := axis.of overlap
  let dir := direction a b axis
  let treeA := g.treeOf a.uid
  let treeB := g.treeOf b.uid
  let pinnedA := treeA.any (· ∈ s.held)
  let pinnedB := treeB.any (· ∈ s.held)
  if pinnedA && pinnedB then none
  else
    let (shareA, shareB) := shares a b axis pinnedA pinnedB
    let s := if 0.0 < shareA then s.shiftTree g a.uid axis (-dir * depth * shareA) else s
    let s := if 0.0 < shareB then s.shiftTree g b.uid axis (dir * depth * shareB) else s
    let held := if pinnedA then addNames s.held treeB
      else if pinnedB then addNames s.held treeA
      else s.held
    some { s with
      held := addNames held s.rolledBack
      bodies := (s.bodies.modify i (halt axis dir)).modify j (halt axis (-dir)) }

/-- Two bodies block each other and overlap. -/
def mustPart (g : Attachments) (a b : Body K) : Bool :=
  let o := a.overlap b
  a.isSolid && b.isSolid && a.masksBlock b && !g.directlyAttached a.uid b.uid &&
    !decide (o.x ≤ overlapSlack) && !decide (o.y ≤ overlapSlack)

/-- Looks at one pair; a push counts. -/
def visit (g : Attachments) (s : Pushing K × Nat) (ij : Nat × Nat) : Pushing K × Nat :=
  match s.1.bodies[ij.1]?, s.1.bodies[ij.2]? with
  | some a, some b =>
    if mustPart g a b then
      match s.1.pushApart? g ij.1 ij.2 a b with
      | some s' => (s', s.2 + 1)
      | none => s
    else s
  | _, _ => s

/-- The pairs of positions below `n`, in order. -/
def positions (n : Nat) : List (Nat × Nat) :=
  (List.range n).flatMap fun i => (List.range' (i + 1) (n - (i + 1))).map (i, ·)

/-- Goes once over all pairs. -/
def pass (g : Attachments) (s : Pushing K) : Pushing K × Nat :=
  (positions s.bodies.length).foldl (visit g) (s, 0)

/-- Passes over all pairs until one pushes nothing, at most the given number of times. -/
def passes (g : Attachments) : Nat → Pushing K → Pushing K × Nat
  | 0, s => (s, 0)
  | n + 1, s =>
    match s.pass g with
    | (s, 0) => (s, 0)
    | (s, pushes) =>
      let (s, more) := passes g n s
      (s, pushes + more)

/-- The bodies that lie in a tile that blocks them. -/
def offenders (map : Option (TileMap K)) (bodies : List (Body K)) : List String :=
  match map with
  | none => []
  | some m => (bodies.filter fun b =>
      b.isSolid && m.footprintBlocked b.blockMask b.min b.max).map (·.uid)

/-- The search for bodies in tiles panics. -/
def offendersOverflow (map : Option (TileMap K)) (bodies : List (Body K)) : Bool :=
  map.any fun m =>
    bodies.any fun b => b.isSolid && b.blockMask.isSome && m.boxOverflows b.min b.max

/-- Sends every body in a blocking tile back, with all that is attached to it. Says how many there
were. -/
def rollBackTiles (map : Option (TileMap K)) (g : Attachments) (s : Pushing K) :
    Pushing K × Nat :=
  let found := offenders map s.bodies
  (found.foldl (fun s uid => s.rollBackAll (g.subtree uid)) s, found.length)

/-- Pushes bodies apart; those that went back are held. -/
def separate (g : Attachments) (s : Pushing K) : Pushing K × Nat :=
  passes g maxPasses { s with held := addNames [] s.rolledBack }

/-- Separation and rollback by turns, at most the given number of times. -/
def settle (map : Option (TileMap K)) (g : Attachments) : Nat → Pushing K → Pushing K × Nat
  | 0, s => (s, 0)
  | n + 1, s =>
    match s.separate g with
    | (s, 0) => (s, 0)
    | (s, pushes) =>
      match s.rollBackTiles map g with
      | (s, 0) => (s, pushes)
      | (s, _) =>
        let (s, more) := settle map g n s
        (s, pushes + more)

/-- Separation and rollback by turns panic. -/
def settleOverflows (map : Option (TileMap K)) (g : Attachments) : Nat → Pushing K → Bool
  | 0, _ => false
  | n + 1, s =>
    match s.separate g with
    | (_, 0) => false
    | (s, _) =>
      offendersOverflow map s.bodies ||
        match s.rollBackTiles map g with
        | (_, 0) => false
        | (s, _) => settleOverflows map g n s

end Pushing

namespace Physics

variable {K : Type} [Scalar K]

/-- Takes bodies out of tiles and apart. -/
def resolve (p : Physics K) : Resolution × Physics K :=
  let g := p.attachments
  let (s, _) := (Pushing.mk p.bodies [] []).rollBackTiles p.map g
  let (s, pushes) := Pushing.settle p.map g maxPasses s
  (⟨s.rolledBack, pushes⟩, { p with bodies := s.bodies })

/-- Taking bodies out of tiles and apart panics. -/
def resolveOverflows (p : Physics K) : Bool :=
  Pushing.offendersOverflow p.map p.bodies ||
    Pushing.settleOverflows p.map p.attachments maxPasses
      ((Pushing.mk p.bodies [] []).rollBackTiles p.map p.attachments).1

end Physics

end Playfield
